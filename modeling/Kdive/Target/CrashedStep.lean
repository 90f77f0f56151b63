import Kdive.Artifacts.StoreRuns
import Kdive.Target.StepHandlers

/-!
# Running a crashed step again

A server that dies leaves the files as they are, the lock files of the step among
them.  A later call is made by a new process, with nothing else running.

*Cuts.*  The server may die between any two system calls (`Prog.Reaches`), with any
faults before that.  The manifest can be read wherever it dies (`program_safe`), as it
is only ever replaced by a whole one.

*Recovery.*  The branch that marks a stale running step as failed is behind the lock of
the step.  A lock file that the dead server held is there to stay, so the later call is
refused, or is told that the step still runs (`underLocks_refused`).  When no lock file is
left the call goes through (`underLocks_finishes`).
-/

namespace Kdive.Steps

open Program Artifacts CriticalSection

variable {Json : Type}

/-! ## Cuts -/

section Safe

theorem openRun_safe (run : Run) (fault : Option Raised) :
    Safe (openRun run fault : StoreRun Json _) := by
  have hfile : Safe (system .isFile : StoreRun Json Bool) := .of_calls (.call trivial)
  refine hfile.bind fun there => ?_
  split
  · exact ⟨fun _ => trivial⟩
  · refine (loadManifest_safe run fault).attempt.bind fun r => ?_
    match r with
    | .ok m => exact ⟨fun _ => trivial⟩
    | .error (.manifestState message) => exact ⟨fun _ => trivial⟩
    | .error .fileExists | .error .fileNotFound | .error (.os _) | .error (.validation _)
    | .error (.value _) | .error (.other _) => exact ⟨fun _ => trivial⟩

theorem answerRaised_safe (run : Run) (fault : Option Raised) (stepName lockedMessage : String)
    (existing : Option (StepResult Json)) (e : Raised) :
    Safe (answerRaised run fault stepName lockedMessage existing e) := by
  cases e with
  | manifestState message =>
      rw [answerRaised]
      split
      · have hrefreshed : Safe (refreshedResult run fault stepName : StoreRun Json _) := by
          refine (loadManifest_safe run fault).attempt.bind fun r => ?_
          match r with
          | .ok m => exact ⟨fun _ => trivial⟩
          | .error (.manifestState message) => exact ⟨fun _ => trivial⟩
          | .error .fileExists | .error .fileNotFound | .error (.os _) | .error (.validation _)
          | .error (.value _) | .error (.other _) => exact ⟨fun _ => trivial⟩
        refine hrefreshed.bind fun refreshed => ?_
        split <;> exact ⟨fun _ => trivial⟩
      · exact ⟨fun _ => trivial⟩
  | _ => exact ⟨fun _ => trivial⟩

variable [DecidableEq Json]

theorem recoverStaleRunning_safe (run : Run) (faults : UpdateFaults) (jsonTrue : Json)
    (stepName : String) (existing : Option (StepResult Json)) :
    Safe (recoverStaleRunning run faults jsonTrue stepName existing) := by
  rw [recoverStaleRunning]
  cases existing.filter isRunning with
  | none => exact ⟨fun _ => trivial⟩
  | some result => exact (recordStepResult_safe ..).void

namespace BootCall

variable (c : BootCall Json)

theorem executeBootAttempt_safe (inputs : BootInputs Json) (attempt : Nat)
    (replaceSucceeded : Bool) (plan : BootPlan Json) :
    Safe (c.executeBootAttempt inputs attempt replaceSucceeded plan) := by
  refine (recordStepResult_safe ..).bind fun _ => ?_
  cases c.execution with
  | error error => exact (recordBootAttempt_safe ..).bind fun _ => ⟨fun _ => trivial⟩
  | ok execution => exact (recordBootAttempt_safe ..).bind fun _ => ⟨fun _ => trivial⟩

theorem underTargetLock_safe (inputs : BootInputs Json) (m : RunManifest Json) :
    Safe (c.underTargetLock inputs m) := by
  refine (recoverStaleRunning_safe ..).bind fun _ => ?_
  match c.plan with
  | .error (.recorded ..) => exact (recordStepResult_safe ..).bind fun _ => ⟨fun _ => trivial⟩
  | .error (.stopped (.refused ..)) => exact ⟨fun _ => trivial⟩
  | .error (.stopped (.raised e)) => exact ⟨fun _ => trivial⟩
  | .ok plan => exact c.executeBootAttempt_safe ..

theorem underLocks_safe (inputs : BootInputs Json) (existing : Option (StepResult Json)) :
    Safe (c.underLocks inputs existing) := by
  refine (fileLock_safe _ _ _ _ ?_).rescue fun e => answerRaised_safe ..
  refine (loadManifest_safe ..).bind fun m => ?_
  split
  · exact ⟨fun _ => trivial⟩
  · rw [targetLock]
    split
    · exact ⟨fun _ => trivial⟩
    · exact fileLock_safe _ _ _ _ (c.underTargetLock_safe inputs m)

theorem program_safe : Safe c.program := by
  refine (openRun_safe ..).bind fun r => ?_
  cases r with
  | error answer => exact ⟨fun _ => trivial⟩
  | ok m =>
      dsimp only
      split
      · exact ⟨fun _ => trivial⟩
      · split
        · exact ⟨fun _ => trivial⟩
        · split
          · exact ⟨fun _ => trivial⟩
          · exact c.underLocks_safe ..

end BootCall

namespace TestsCall

variable (c : TestsCall Json)

theorem underTestsLock_safe : Safe c.underTestsLock := by
  refine (loadManifest_safe ..).bind fun m => ?_
  split
  · exact ⟨fun _ => trivial⟩
  · refine (recoverStaleRunning_safe ..).bind fun _ => ?_
    match c.plan with
    | .error (.refused ..) => exact ⟨fun _ => trivial⟩
    | .error (.raised e) => exact ⟨fun _ => trivial⟩
    | .ok details =>
        refine (recordStepResult_safe ..).bind fun _ => ?_
        cases c.execution with
        | error error => exact (recordStepResult_safe ..).bind fun _ => ⟨fun _ => trivial⟩
        | ok execution => exact (recordStepResult_safe ..).bind fun _ => ⟨fun _ => trivial⟩

theorem program_safe : Safe c.program := by
  refine (openRun_safe ..).bind fun r => ?_
  cases r with
  | error answer => exact ⟨fun _ => trivial⟩
  | ok m =>
      dsimp only
      split
      · exact ⟨fun _ => trivial⟩
      · split
        · exact ⟨fun _ => trivial⟩
        · split
          · exact ⟨fun _ => trivial⟩
          · split
            · exact ⟨fun _ => trivial⟩
            · exact (fileLock_safe _ _ _ _ c.underTestsLock_safe).rescue fun e =>
                answerRaised_safe ..

end TestsCall

end Safe

/-! ## What a later call comes to -/

/-- Nothing but the result of the step is replaced, and no attempt is lost. -/
structure Extends (stepName : String) (m m' : RunManifest Json) : Prop where
  attempts : m.bootAttempts <+: m'.bootAttempts
  results : ∀ name, name ≠ stepName → m'.result? name = m.result? name

/-- The step has an outcome. -/
def HasOutcome (stepName : String) (m : RunManifest Json) : Prop :=
  ∃ result, m.result? stepName = some result ∧
    (result.status = .succeeded ∨ result.status = .failed)

section Manifests

variable {stepName : String} {m m' m'' : RunManifest Json} {result : StepResult Json}

theorem Extends.refl : Extends stepName m m := ⟨List.prefix_rfl, fun _ _ => rfl⟩

theorem Extends.trans (h : Extends stepName m m') (h' : Extends stepName m' m'') :
    Extends stepName m m'' where
  attempts := h.attempts.trans h'.attempts
  results := fun name hne => (h'.results name hne).trans (h.results name hne)

theorem Extends.of_apply {u : Update Json} (h : u.apply m = .ok m')
    (hname : u.result.stepName = stepName) : Extends stepName m m' where
  attempts := Update.apply_bootAttempts h
  results := fun _ hne => Update.apply_other h (hname ▸ hne)

theorem Extends.withStepResult (m : RunManifest Json) (hname : result.stepName = stepName)
    (replaceSucceeded : Bool) : Extends stepName m (m.withStepResult result replaceSucceeded) :=
  .of_apply (u := .step result replaceSucceeded false) rfl hname

theorem Extends.withBootAttempt (m : RunManifest Json) (attempt : BootAttempt Json)
    (hname : result.stepName = stepName) :
    Extends stepName m ((m.withBootAttempt attempt).withStepResult result true) :=
  .of_apply (u := .boot attempt result) rfl hname

/-- Recording an outcome leaves the step with one. -/
theorem HasOutcome.withStepResult (m : RunManifest Json) (hname : result.stepName = stepName)
    (hstatus : result.status = .succeeded ∨ result.status = .failed) (replaceSucceeded : Bool) :
    HasOutcome stepName (m.withStepResult result replaceSucceeded) := by
  unfold RunManifest.withStepResult
  split
  · next hkept =>
      obtain ⟨existing, hexisting, hsucceeded⟩ := (Option.any_eq_true _ _).mp hkept.1
      exact ⟨existing, hname ▸ hexisting, .inl (by simpa using hsucceeded)⟩
  · exact ⟨result, hname ▸ lookup_setItem _ result m.stepResults, hstatus⟩

end Manifests

/-- The program ends with an answer, and the step with an outcome. -/
def Finishes (stepName : String) (p : StoreRun Json (Answer Json)) (d : Disk Json)
    (m : RunManifest Json) : Prop :=
  ∃ answer d' m', p.run diskExec d = (.ok answer, d') ∧ ¬ answer.Refuses ∧ d'.stored = some m' ∧
    d'.locks = d.locks ∧ Extends stepName m m' ∧ HasOutcome stepName m'

/-- The program is refused a lock. -/
def Refused {α : Type} (p : StoreRun Json α) (d : Disk Json) : Prop :=
  ∃ message d', p.run diskExec d = (.error (.manifestState message), d') ∧
    message ∈ lockMessages ∧ d'.stored.isSome = true ∧ d'.locks = d.locks

section Lift

variable {α β : Type} {stepName : String} {p : StoreRun Json (Answer Json)} {d d₁ : Disk Json}
  {m m₁ : RunManifest Json} {file : LockFile} {lockedMessage failurePrefix : String}

/-- A section behind a free lock finishes if it does alone. -/
theorem Finishes.locked (hfree : d.locks file = false)
    (h : Finishes stepName p (d.setLock file true) m) :
    Finishes stepName (fileLock file lockedMessage failurePrefix {} p) d m := by
  obtain ⟨answer, d', m', hrun, hanswer, hstored, hlocks, hrest⟩ := h
  have hheld : (p.run diskExec (d.setLock file true)).2.locks file = true := by
    rw [hrun, hlocks]
    simp
  refine ⟨answer, _, m', ?_, hanswer, ?_, setLock_locks_free hfree hlocks, hrest⟩
  · rw [fileLock_run_free hfree hheld, hrun]
  · exact hstored

theorem Refused.locked {p : StoreRun Json α} (hfree : d.locks file = false)
    (h : Refused p (d.setLock file true)) :
    Refused (fileLock file lockedMessage failurePrefix {} p) d := by
  obtain ⟨message, d', hrun, hmessage, hstored, hlocks⟩ := h
  have hheld : (p.run diskExec (d.setLock file true)).2.locks file = true := by
    rw [hrun, hlocks]
    simp
  refine ⟨message, _, ?_, hmessage, ?_, setLock_locks_free hfree hlocks⟩
  · rw [fileLock_run_free hfree hheld, hrun]
  · exact hstored

theorem Refused.held {p : StoreRun Json α} (hd : d.stored.isSome = true)
    (hheld : d.locks file = true) (hmessage : lockedMessage ∈ lockMessages) :
    Refused (fileLock file lockedMessage failurePrefix {} p) d :=
  ⟨lockedMessage, d, fileLock_run_held hheld, hmessage, hd, rfl⟩

/-- A program whose first part runs through comes to what the rest does. -/
theorem Refused.after {p : StoreRun Json α} {f : α → StoreRun Json β} {a : α}
    (hrun : p.run diskExec d = (.ok a, d₁)) (hlocks : d₁.locks = d.locks)
    (h : Refused (f a) d₁) : Refused (p >>= f) d := by
  obtain ⟨message, d', hrest, hmessage, hstored, hlocks'⟩ := h
  exact ⟨message, d', by rw [Prog.run_bind, hrun]; exact hrest, hmessage, hstored,
    hlocks'.trans hlocks⟩

theorem Refused.bind {p : StoreRun Json α} (f : α → StoreRun Json β) (h : Refused p d) :
    Refused (p >>= f) d := by
  obtain ⟨message, d', hrun, hrest⟩ := h
  exact ⟨message, d', by rw [Prog.run_bind, hrun], hrest⟩

theorem Finishes.after {p : StoreRun Json α} {f : α → StoreRun Json (Answer Json)} {a : α}
    (hrun : p.run diskExec d = (.ok a, d₁)) (hlocks : d₁.locks = d.locks)
    (hm : Extends stepName m m₁) (h : Finishes stepName (f a) d₁ m₁) :
    Finishes stepName (p >>= f) d m := by
  obtain ⟨answer, d', m', hrest, hanswer, hstored, hlocks', hextends, houtcome⟩ := h
  exact ⟨answer, d', m', by rw [Prog.run_bind, hrun]; exact hrest, hanswer, hstored,
    hlocks'.trans hlocks, hm.trans hextends, houtcome⟩

/-- The end of a program that has recorded the outcome. -/
theorem Finishes.answer {answer : Answer Json} (hanswer : ¬ answer.Refuses)
    (hd : d.stored = some m) (houtcome : HasOutcome stepName m) :
    Finishes stepName (.ret answer) d m :=
  ⟨answer, d, m, rfl, hanswer, hd, rfl, .refl, houtcome⟩

end Lift

section Store

variable [DecidableEq Json] {stepName : String} {run : Run} {d : Disk Json} {m : RunManifest Json}
  {result : StepResult Json}

/-- Recording a result of the step runs through while the manifest lock is free. -/
theorem Finishes.afterRecord (hd : d.stored = some m) (hfree : d.locks .manifest = false)
    (hname : result.stepName = stepName) {replaceSucceeded : Bool}
    {f : RunManifest Json → StoreRun Json (Answer Json)}
    (h : ∀ d', d'.stored = some (m.withStepResult result replaceSucceeded) → d'.locks = d.locks →
      Finishes stepName (f (m.withStepResult result replaceSucceeded)) d'
        (m.withStepResult result replaceSucceeded)) :
    Finishes stepName (recordStepResult run {} result replaceSucceeded false >>= f) d m := by
  obtain ⟨d', hrun, hstored, hlocks⟩ := recordStepResult_run run hd hfree result
    replaceSucceeded
  exact .after hrun hlocks (.withStepResult m hname replaceSucceeded) (h d' hstored hlocks)

/-- Recording an outcome and answering ends the step. -/
theorem Finishes.record (hd : d.stored = some m) (hfree : d.locks .manifest = false)
    (hname : result.stepName = stepName)
    (hstatus : result.status = .succeeded ∨ result.status = .failed) {replaceSucceeded : Bool}
    {answer : Answer Json} (hanswer : ¬ answer.Refuses) :
    Finishes stepName
      (do let _ ← recordStepResult run {} result replaceSucceeded false; return answer) d m :=
  .afterRecord hd hfree hname fun _ hd' _ =>
    .answer hanswer hd' (.withStepResult m hname hstatus replaceSucceeded)

omit [DecidableEq Json] in
theorem Finishes.recordAttempt (hd : d.stored = some m) (hfree : d.locks .manifest = false)
    (attempt : BootAttempt Json) (hname : result.stepName = stepName)
    (hstatus : result.status = .succeeded ∨ result.status = .failed) {answer : Answer Json}
    (hanswer : ¬ answer.Refuses) :
    Finishes stepName
      (do let _ ← recordBootAttempt run {} attempt result; return answer) d m := by
  obtain ⟨d', hrun, hstored, hlocks⟩ := recordBootAttempt_run run hd hfree attempt result
  exact .after hrun hlocks (.withBootAttempt m attempt hname)
    (.answer hanswer hstored (.withStepResult _ hname hstatus true))

theorem Refused.record (hd : d.stored = some m) (hheld : d.locks .manifest = true)
    {replaceSucceeded : Bool} :
    Refused (recordStepResult run {} result replaceSucceeded false) d :=
  ⟨"manifest is locked", d, recordStepResult_held hheld result replaceSucceeded, by decide,
    by rw [hd]; rfl, rfl⟩

/-- A stale result that says the step runs is recorded as a failure, if the lock is free. -/
theorem recoverStaleRunning_run (run : Run) (stepName : String) (jsonTrue : Json) (hd : d.stored = some m)
    (hfree : d.locks .manifest = false) :
    ∃ d' m', (recoverStaleRunning run {} jsonTrue stepName (m.result? stepName)).run diskExec d =
        (.ok (), d') ∧ d'.stored = some m' ∧ d'.locks = d.locks ∧ Extends stepName m m' ∧
      ∀ stale, m.result? stepName = some stale → stale.status = .running →
        m'.result? stepName = some (staleFailed jsonTrue stepName stale) := by
  rw [recoverStaleRunning]
  cases hstale : (m.result? stepName).filter isRunning with
  | none =>
      refine ⟨d, m, rfl, hd, rfl, .refl, fun stale hresult hrunning => ?_⟩
      rw [hresult] at hstale
      simp [isRunning, hrunning] at hstale
  | some stale =>
      obtain ⟨hresult, hrunning⟩ := Option.filter_eq_some_iff.mp hstale
      obtain ⟨d', hrun, hstored, hlocks⟩ := recordStepResult_run run hd hfree
        (staleFailed jsonTrue stepName stale) false
      have hname : (staleFailed jsonTrue stepName stale).stepName = stepName := rfl
      refine ⟨d', _, ?_, hstored, hlocks, .withStepResult m hname false, fun stale' hresult' _ => ?_⟩
      · rw [Prog.forSome, Prog.void, Prog.run_bind, hrun]
        rfl
      · obtain rfl := Option.some.inj (hresult.symm.trans hresult')
        have hstatus : stale.status = .running := by simpa [isRunning] using hrunning
        have hkept : ¬ ((m.result? (staleFailed jsonTrue stepName stale).stepName).any
            (fun r => r.status = .succeeded) = true ∧ false = false) := by
          rw [hname, hresult]
          simp [hstatus]
        rw [RunManifest.withStepResult, if_neg hkept]
        exact lookup_setItem ..

/-- A held manifest lock refuses the recovery, or nothing is to recover. -/
theorem recoverStaleRunning_held (run : Run) (stepName : String) (jsonTrue : Json) (hd : d.stored = some m)
    (hheld : d.locks .manifest = true) (existing : Option (StepResult Json)) :
    Refused (recoverStaleRunning run {} jsonTrue stepName existing) d ∨
      (recoverStaleRunning run {} jsonTrue stepName existing).run diskExec d = (.ok (), d) := by
  rw [recoverStaleRunning]
  cases existing.filter isRunning with
  | none => exact .inr rfl
  | some stale => exact .inl (.bind _ (.record hd hheld))

end Store

/-! ## The handlers -/

section Handlers

variable {run : Run} {stepName lockedMessage : String} {existing : Option (StepResult Json)}
  {d : Disk Json} {m : RunManifest Json} {p : StoreRun Json (Answer Json)}

theorem openRun_run (hd : d.stored = some m) :
    (openRun run none).run diskExec d = (.ok (.ok m), d) := by
  have hthere : diskExec .isFile d = (.ok true, d) := by
    simp [diskExec, manifest_of_stored hd]
  rw [openRun, Prog.run_bind, Prog.run_perform, hthere]
  dsimp only
  rw [if_neg (by simp), Prog.run_bind, Prog.run_attempt, loadManifest_run hd]
  rfl

/-- A program that ends is not looked at by the handler. -/
theorem Finishes.rescued (h : Finishes stepName p d m)
    (handler : Raised → StoreRun Json (Answer Json)) :
    Finishes stepName (p.rescue handler) d m := by
  obtain ⟨answer, d', m', hrun, hrest⟩ := h
  exact ⟨answer, d', m', by rw [Prog.run_rescue, hrun], hrest⟩

/-- The tool answers that it is refused, or that the step runs. -/
def AnswersRefused (p : StoreRun Json (Answer Json)) (d : Disk Json) : Prop :=
  ∃ answer d', p.run diskExec d = (.ok answer, d') ∧ answer.Refuses

theorem Refused.answered (h : Refused p d) :
    AnswersRefused (p.rescue (answerRaised run none stepName lockedMessage existing)) d := by
  obtain ⟨message, d', hrun, hmessage, hstored, _⟩ := h
  obtain ⟨m', hm'⟩ := Option.isSome_iff_exists.mp hstored
  rw [AnswersRefused, Prog.run_rescue, hrun]
  dsimp only
  rw [answerRaised]
  split
  · have hrefreshed : (refreshedResult run none stepName).run diskExec d' =
        (.ok (m'.result? stepName), d') := by
      rw [refreshedResult, Prog.run_bind, Prog.run_attempt, loadManifest_run hm']
      rfl
    rw [Prog.run_bind, hrefreshed]
    dsimp only
    split
    · exact ⟨_, d', rfl, trivial⟩
    · exact ⟨_, d', rfl, hmessage⟩
  · exact ⟨_, d', rfl, hmessage⟩

theorem AnswersRefused.after {α : Type} {p : StoreRun Json α} {f : α → StoreRun Json (Answer Json)}
    {a : α} (hrun : p.run diskExec d = (.ok a, d)) (h : AnswersRefused (f a) d) :
    AnswersRefused (p >>= f) d := by
  rw [AnswersRefused, Prog.run_bind, hrun]
  exact h

end Handlers

/-- A result that says the step runs is recorded as a failure on the way. -/
def Recovers (stepName : String) (jsonTrue : Json) {α : Type} (p : StoreRun Json α) (d : Disk Json)
    (m : RunManifest Json) : Prop :=
  ∀ stale, m.result? stepName = some stale → stale.status = .running →
    ∃ d' m', p.Reaches diskExec d d' ∧ d'.stored = some m' ∧
      m'.result? stepName = some (staleFailed jsonTrue stepName stale)

section Recovers

variable {α β : Type} {stepName : String} {jsonTrue : Json} {p : StoreRun Json α} {d : Disk Json}
  {m : RunManifest Json}

theorem Recovers.mono {q : StoreRun Json β} {d₁ : Disk Json} (h : Recovers stepName jsonTrue p d m)
    (hreaches : ∀ d', p.Reaches diskExec d d' → q.Reaches diskExec d₁ d') :
    Recovers stepName jsonTrue q d₁ m := by
  intro stale hstale hrunning
  obtain ⟨d', m', hcut, hrest⟩ := h stale hstale hrunning
  exact ⟨d', m', hreaches d' hcut, hrest⟩

theorem Recovers.bind (f : α → StoreRun Json β) (h : Recovers stepName jsonTrue p d m) :
    Recovers stepName jsonTrue (p >>= f) d m :=
  h.mono fun d' hcut => (Prog.reaches_bind p f d d').mpr (.inl hcut)

theorem Recovers.after {f : α → StoreRun Json β} {a : α} {d₁ : Disk Json}
    (hrun : p.run diskExec d = (.ok a, d₁)) (h : Recovers stepName jsonTrue (f a) d₁ m) :
    Recovers stepName jsonTrue (p >>= f) d m :=
  h.mono fun d' hcut => (Prog.reaches_bind p f d d').mpr (.inr ⟨a, d₁, hrun, hcut⟩)

theorem Recovers.locked {file : LockFile} {lockedMessage failurePrefix : String}
    (hfree : d.locks file = false) (h : Recovers stepName jsonTrue p (d.setLock file true) m) :
    Recovers stepName jsonTrue (fileLock file lockedMessage failurePrefix {} p) d m :=
  h.mono fun _ => fileLock_reaches hfree

theorem Recovers.rescued (handler : Raised → StoreRun Json α)
    (h : Recovers stepName jsonTrue p d m) :
    Recovers stepName jsonTrue (p.rescue handler) d m :=
  h.mono fun d' hcut =>
    (Prog.reaches_bind _ _ d d').mpr (.inl ((Prog.reaches_attempt p d d').mpr hcut))

theorem Recovers.stale [DecidableEq Json] (run : Run) (jsonTrue : Json) (hd : d.stored = some m)
    (hfree : d.locks .manifest = false) :
    Recovers stepName jsonTrue
      (recoverStaleRunning run {} jsonTrue stepName (m.result? stepName)) d m := by
  intro stale hstale hrunning
  obtain ⟨d', m', hrun, hd', _, _, hrecovered⟩ :=
    recoverStaleRunning_run run stepName jsonTrue hd hfree
  refine ⟨d', m', ?_, hd', hrecovered stale hstale hrunning⟩
  have hend : (recoverStaleRunning run {} jsonTrue stepName (m.result? stepName)).Reaches diskExec d
      ((recoverStaleRunning run {} jsonTrue stepName (m.result? stepName)).run diskExec d).2 :=
    Prog.reaches_run _ d
  rwa [hrun] at hend

end Recovers

/-! ## The two tools -/

variable [DecidableEq Json]

namespace BootCall

/-- A call that gets as far as the locks, with no faults, and whose boot ends. -/
structure Ready (c : BootCall Json) (m : RunManifest Json) : Prop where
  faults : c.faults = {}
  inputs : ∃ inputs, c.inputs m = .ok inputs
  permitted : c.permitted = true
  plan : ∀ s, c.plan ≠ .error (.stopped s)
  ends : ∀ execution, c.execution = .ok execution →
    execution.status = .succeeded ∨ execution.status = .failed

variable {c : BootCall Json} {m m' : RunManifest Json} {d : Disk Json} {inputs : BootInputs Json}

theorem executeBootAttempt_finishes (h : c.Ready m) (hd : d.stored = some m')
    (hfree : d.locks .manifest = false) (attempt : Nat) (replaceSucceeded : Bool)
    (plan : BootPlan Json) :
    Finishes "boot" (c.executeBootAttempt inputs attempt replaceSucceeded plan) d m' := by
  rw [executeBootAttempt, h.faults]
  refine .afterRecord hd hfree rfl fun d₁ hd₁ hlocks => ?_
  have hfree₁ : d₁.locks .manifest = false := by rw [hlocks, hfree]
  cases hexecution : c.execution with
  | error error =>
      have hname : (failedResult plan error).stepName = "boot" := by cases error <;> rfl
      have hstatus : (failedResult plan error).status = .failed := by cases error <;> rfl
      exact .recordAttempt hd₁ hfree₁ _ hname (.inr hstatus) (Answer.not_refuses_failed _ _)
  | ok execution =>
      have hanswer : ¬ execution.answer.Refuses := by
        rw [BootExecution.answer]
        split
        · exact Answer.not_refuses_succeeded _
        · exact Answer.not_refuses_failed _ _
      have hname : execution.result.stepName = "boot" := rfl
      have hstatus : execution.result.status = .succeeded ∨ execution.result.status = .failed :=
        h.ends execution hexecution
      exact .recordAttempt hd₁ hfree₁ _ hname hstatus hanswer

theorem underTargetLock_finishes (h : c.Ready m) (hd : d.stored = some m)
    (hfree : d.locks .manifest = false) : Finishes "boot" (c.underTargetLock inputs m) d m := by
  rw [underTargetLock, h.faults]
  obtain ⟨d₁, m₁, hrun, hd₁, hlocks, hextends, _⟩ :=
    recoverStaleRunning_run c.run "boot" c.jsonTrue hd hfree
  have hfree₁ : d₁.locks .manifest = false := by rw [hlocks, hfree]
  refine .after hrun hlocks hextends ?_
  match hplan : c.plan with
  | .error (.recorded category message artifacts details) =>
      exact .record hd₁ hfree₁ rfl (.inr rfl) (Answer.not_refuses_failed _ _)
  | .error (.stopped s) => exact absurd hplan (h.plan s)
  | .ok plan => exact executeBootAttempt_finishes h hd₁ hfree₁ _ _ plan

theorem underTargetLock_refused (h : c.Ready m) (hd : d.stored = some m)
    (hheld : d.locks .manifest = true) : Refused (c.underTargetLock inputs m) d := by
  rw [underTargetLock, h.faults]
  rcases recoverStaleRunning_held c.run "boot" c.jsonTrue hd hheld (m.result? "boot") with hrefused | hrun
  · exact .bind _ hrefused
  · refine .after hrun rfl ?_
    match hplan : c.plan with
    | .error (.recorded category message artifacts details) => exact .bind _ (.record hd hheld)
    | .error (.stopped s) => exact absurd hplan (h.plan s)
    | .ok plan =>
        dsimp only
        rw [executeBootAttempt, h.faults]
        exact .bind _ (.record hd hheld)

/-- The locks the call takes. -/
def lockFiles (inputs : BootInputs Json) : List LockFile :=
  [.boot, .target inputs.targetRef, .manifest]

theorem underLocks_finishes (h : c.Ready m) (hd : d.stored = some m)
    (hnone : (m.result? "boot").filter c.shortCircuits = none)
    (hfree : ∀ file ∈ lockFiles inputs, d.locks file = false)
    (existing : Option (StepResult Json)) :
    Finishes "boot" (c.underLocks inputs existing) d m := by
  have hboot : d.locks .boot = false := hfree _ (by simp [lockFiles])
  have htarget : d.locks (.target inputs.targetRef) = false := hfree _ (by simp [lockFiles])
  have hmanifest : d.locks .manifest = false := hfree _ (by simp [lockFiles])
  have hd₁ : (d.setLock .boot true).stored = some m := hd
  rw [underLocks, h.faults]
  refine .rescued (.locked hboot ?_) _
  rw [underBootLock, h.faults]
  refine .after (loadManifest_run hd₁) rfl .refl ?_
  rw [hnone]
  dsimp only
  rw [targetLock, h.faults]
  refine .locked (by simp [htarget]) ?_
  exact underTargetLock_finishes h hd (by simp [hmanifest])

theorem underLocks_refused (h : c.Ready m) (hd : d.stored = some m)
    (hnone : (m.result? "boot").filter c.shortCircuits = none)
    (hheld : ∃ file ∈ lockFiles inputs, d.locks file = true)
    (existing : Option (StepResult Json)) : AnswersRefused (c.underLocks inputs existing) d := by
  have hreadable : d.stored.isSome = true := by rw [hd]; rfl
  have hd₁ : (d.setLock .boot true).stored = some m := hd
  rw [underLocks, h.faults]
  refine Refused.answered ?_
  cases hboot : d.locks .boot with
  | true => exact .held hreadable hboot (by simp [lockMessages])
  | false =>
      refine .locked hboot ?_
      rw [underBootLock, h.faults]
      refine .after (loadManifest_run hd₁) rfl ?_
      rw [hnone]
      dsimp only
      rw [targetLock, h.faults]
      cases htarget : d.locks (.target inputs.targetRef) with
      | true => exact .held hreadable (by simp [htarget]) (by simp [lockMessages])
      | false =>
          have hmanifest : d.locks .manifest = true := by
            obtain ⟨file, hfile, hlock⟩ := hheld
            simp only [lockFiles, List.mem_cons, List.not_mem_nil, or_false] at hfile
            rcases hfile with rfl | rfl | rfl
            · exact absurd hlock (by simp [hboot])
            · exact absurd hlock (by simp [htarget])
            · exact hlock
          refine .locked (by simp [htarget]) ?_
          exact underTargetLock_refused h hd (by simp [hmanifest])

theorem underLocks_recovers (h : c.Ready m) (hd : d.stored = some m)
    (hnone : (m.result? "boot").filter c.shortCircuits = none)
    (hfree : ∀ file ∈ lockFiles inputs, d.locks file = false)
    (existing : Option (StepResult Json)) :
    Recovers "boot" c.jsonTrue (c.underLocks inputs existing) d m := by
  have hboot : d.locks .boot = false := hfree _ (by simp [lockFiles])
  have htarget : d.locks (.target inputs.targetRef) = false := hfree _ (by simp [lockFiles])
  have hmanifest : d.locks .manifest = false := hfree _ (by simp [lockFiles])
  have hd₁ : (d.setLock .boot true).stored = some m := hd
  rw [underLocks, h.faults]
  refine .rescued _ (.locked hboot ?_)
  rw [underBootLock, h.faults]
  refine .after (loadManifest_run hd₁) ?_
  rw [hnone]
  dsimp only
  rw [targetLock, h.faults]
  refine .locked (by simp [htarget]) ?_
  rw [underTargetLock, h.faults]
  exact .bind _ (.stale c.run c.jsonTrue hd (by simp [hmanifest]))

/-- The handler gets to the locks, or answers with the recorded boot. -/
theorem program_run (h : c.Ready m) (hd : d.stored = some m)
    (hinputs : c.inputs m = .ok inputs) :
    c.program.run diskExec d =
      match (m.result? "boot").filter c.shortCircuits with
      | some result => (.ok (.succeeded result), d)
      | none => (c.underLocks inputs (m.result? "boot")).run diskExec d := by
  rw [program, h.faults, Prog.run_bind, openRun_run hd]
  dsimp only
  rw [hinputs]
  dsimp only
  rw [h.permitted]
  cases (m.result? "boot").filter c.shortCircuits <;> rfl

theorem program_recovers (h : c.Ready m) (hd : d.stored = some m)
    (hinputs : c.inputs m = .ok inputs)
    (hnone : (m.result? "boot").filter c.shortCircuits = none)
    (hfree : ∀ file ∈ lockFiles inputs, d.locks file = false) :
    Recovers "boot" c.jsonTrue c.program d m := by
  rw [program, h.faults]
  refine .after (openRun_run hd) ?_
  dsimp only
  rw [hinputs]
  dsimp only
  rw [hnone]
  dsimp only
  rw [if_neg (by simp [h.permitted])]
  exact underLocks_recovers h hd hnone hfree _

end BootCall

namespace TestsCall

/-- A call that gets as far as the locks, with no faults, and whose tests end. -/
structure Ready (c : TestsCall Json) (m : RunManifest Json) : Prop where
  faults : c.faults = {}
  booted : (m.result? "boot").any (fun result => result.status = .succeeded) = true
  inputs : c.inputs m = .ok ()
  permitted : c.permitted = true
  plan : ∃ details, c.plan = .ok details
  ends : ∀ execution, c.execution = .ok execution →
    execution.status = .succeeded ∨ execution.status = .failed

/-- The locks a call takes. -/
def lockFiles : List LockFile := [.tests, .manifest]

variable {c : TestsCall Json} {m m' : RunManifest Json} {d : Disk Json}

theorem execute_finishes (h : c.Ready m) (hd : d.stored = some m')
    (hfree : d.locks .manifest = false) (details : List (String × Json)) :
    Finishes "run_tests" (c.execute details) d m' := by
  rw [execute, h.faults]
  refine .afterRecord hd hfree rfl fun d₁ hd₁ hlocks => ?_
  have hfree₁ : d₁.locks .manifest = false := by rw [hlocks, hfree]
  cases hexecution : c.execution with
  | error error =>
      have hname : error.result.stepName = "run_tests" := rfl
      have hstatus : error.result.status = .failed := rfl
      exact .record hd₁ hfree₁ hname (.inr hstatus) (Answer.not_refuses_failed _ _)
  | ok execution =>
      have hanswer : ¬ execution.answer.Refuses := by
        rw [TestsExecution.answer]
        split
        · exact Answer.not_refuses_succeeded _
        · exact Answer.not_refuses_failed _ _
      have hname : execution.result.stepName = "run_tests" := rfl
      have hstatus : execution.result.status = .succeeded ∨ execution.result.status = .failed :=
        h.ends execution hexecution
      exact .record hd₁ hfree₁ hname hstatus hanswer

theorem underLocks_finishes (h : c.Ready m) (hd : d.stored = some m)
    (hnone : c.recorded? (m.result? "run_tests") = none)
    (hfree : ∀ file ∈ lockFiles, d.locks file = false) (existing : Option (StepResult Json)) :
    Finishes "run_tests" (c.underLocks existing) d m := by
  have htests : d.locks .tests = false := hfree _ (by simp [lockFiles])
  have hmanifest : d.locks .manifest = false := hfree _ (by simp [lockFiles])
  have hmanifest₁ : (d.setLock .tests true).locks .manifest = false := by simp [hmanifest]
  have hd₁ : (d.setLock .tests true).stored = some m := hd
  rw [underLocks, h.faults]
  refine .rescued (.locked htests ?_) _
  rw [underTestsLock, h.faults]
  refine .after (loadManifest_run hd₁) rfl .refl ?_
  rw [hnone]
  dsimp only
  obtain ⟨d₂, m₂, hrun, hd₂, hlocks, hextends, _⟩ :=
    recoverStaleRunning_run c.run "run_tests" c.jsonTrue hd₁ hmanifest₁
  refine .after hrun hlocks hextends ?_
  obtain ⟨details, hplan⟩ := h.plan
  rw [hplan]
  exact execute_finishes h hd₂ (by rw [hlocks, hmanifest₁]) details

theorem underLocks_recovers (h : c.Ready m) (hd : d.stored = some m)
    (hnone : c.recorded? (m.result? "run_tests") = none)
    (hfree : ∀ file ∈ lockFiles, d.locks file = false) (existing : Option (StepResult Json)) :
    Recovers "run_tests" c.jsonTrue (c.underLocks existing) d m := by
  have htests : d.locks .tests = false := hfree _ (by simp [lockFiles])
  have hmanifest : d.locks .manifest = false := hfree _ (by simp [lockFiles])
  have hd₁ : (d.setLock .tests true).stored = some m := hd
  rw [underLocks, h.faults]
  refine .rescued _ (.locked htests ?_)
  rw [underTestsLock, h.faults]
  refine .after (loadManifest_run hd₁) ?_
  rw [hnone]
  exact .bind _ (.stale c.run c.jsonTrue hd₁ (by simp [hmanifest]))

theorem underLocks_refused (h : c.Ready m) (hd : d.stored = some m)
    (hnone : c.recorded? (m.result? "run_tests") = none)
    (hheld : ∃ file ∈ lockFiles, d.locks file = true) (existing : Option (StepResult Json)) :
    AnswersRefused (c.underLocks existing) d := by
  have hreadable : d.stored.isSome = true := by rw [hd]; rfl
  have hd₁ : (d.setLock .tests true).stored = some m := hd
  rw [underLocks, h.faults]
  refine Refused.answered ?_
  cases htests : d.locks .tests with
  | true => exact .held hreadable htests (by simp [lockMessages])
  | false =>
      have hmanifest : (d.setLock .tests true).locks .manifest = true := by
        obtain ⟨file, hfile, hlock⟩ := hheld
        simp only [lockFiles, List.mem_cons, List.not_mem_nil, or_false] at hfile
        rcases hfile with rfl | rfl
        · exact absurd hlock (by simp [htests])
        · simp [hlock]
      refine .locked htests ?_
      rw [underTestsLock, h.faults]
      refine .after (loadManifest_run hd₁) rfl ?_
      rw [hnone]
      dsimp only
      rcases recoverStaleRunning_held c.run "run_tests" c.jsonTrue hd₁ hmanifest
        (m.result? "run_tests") with hrefused | hrun
      · exact .bind _ hrefused
      · refine .after hrun rfl ?_
        obtain ⟨details, hplan⟩ := h.plan
        rw [hplan]
        dsimp only
        rw [execute, h.faults]
        exact .bind _ (.record hd₁ hmanifest)

/-- The handler gets to the locks, or answers with the recorded test run. -/
theorem program_run (h : c.Ready m) (hd : d.stored = some m) :
    c.program.run diskExec d =
      match c.recorded? (m.result? "run_tests") with
      | some answer => (.ok answer, d)
      | none => (c.underLocks (m.result? "run_tests")).run diskExec d := by
  rw [program, h.faults, Prog.run_bind, openRun_run hd]
  dsimp only
  rw [if_neg (by simp [h.booted]), h.inputs]
  dsimp only
  rw [h.permitted]
  cases c.recorded? (m.result? "run_tests") <;> rfl

theorem program_recovers (h : c.Ready m) (hd : d.stored = some m)
    (hnone : c.recorded? (m.result? "run_tests") = none)
    (hfree : ∀ file ∈ lockFiles, d.locks file = false) :
    Recovers "run_tests" c.jsonTrue c.program d m := by
  rw [program, h.faults]
  refine .after (openRun_run hd) ?_
  dsimp only
  rw [if_neg (by simp [h.booted]), h.inputs]
  dsimp only
  rw [hnone]
  dsimp only
  rw [if_neg (by simp [h.permitted])]
  exact underLocks_recovers h hd hnone hfree _

end TestsCall

end Kdive.Steps

import Kdive.Artifacts.Linearization

/-!
# The store alone

What the programs of the store do when nothing else runs.  With no faults, a locked
section runs if its lock file does not exist and is refused if it does.  Whatever the
faults, a manifest that could be read can be read wherever a program is cut.
-/

namespace Kdive.Artifacts

open Program CriticalSection

variable {Json : Type}

/-! ## Locked sections -/

section Locks

variable {α : Type} {file : LockFile} {lockedMessage failurePrefix : String}
  {body : StoreRun Json α} {d : Disk Json}

/-- A lock file that exists refuses the section. -/
theorem fileLock_run_held (hheld : d.locks file = true) :
    (fileLock file lockedMessage failurePrefix {} body).run diskExec d =
      (.error (.manifestState lockedMessage), d) := by
  rw [fileLock, Prog.perform_attempt_bind, Prog.run_call]
  simp [diskExec, orRaise, hheld]

/-- The release of a lock that was taken. -/
theorem releaseLock_run (hheld : d.locks file = true) :
    (releaseLock file {} : StoreRun Json Unit).run diskExec d = (.ok (), d.setLock file false) := by
  rw [releaseLock, Prog.run_bind, Prog.run_perform]
  simp only [diskExec, orRaise, Prog.perform_attempt_bind, Prog.run_call, hheld, if_true]
  rfl

/-- A section behind a lock that is free runs as it does alone. -/
theorem fileLock_run_free (hfree : d.locks file = false)
    (hheld : (body.run diskExec (d.setLock file true)).2.locks file = true) :
    (fileLock file lockedMessage failurePrefix {} body).run diskExec d =
      ((body.run diskExec (d.setLock file true)).1,
        (body.run diskExec (d.setLock file true)).2.setLock file false) := by
  rw [fileLock, Prog.perform_attempt_bind, Prog.run_call]
  have hcreate : diskExec (.createLock none file) d = (.ok (), d.setLock file true) := by
    simp [diskExec, orRaise, hfree]
  rw [hcreate]
  dsimp only
  have hwrite : (do system (.writePid none); body : StoreRun Json α).run diskExec
      (d.setLock file true) = body.run diskExec (d.setLock file true) := by
    rw [Prog.run_bind, Prog.run_perform]
    rfl
  rw [Prog.run_bind, Prog.run_attempt, hwrite]
  dsimp only
  rw [Prog.run_bind, releaseLock_run hheld]
  dsimp only
  rw [Prog.run_ofExcept]

/-- A cut inside the section is a cut of the whole. -/
theorem fileLock_reaches (hfree : d.locks file = false) {d' : Disk Json}
    (h : body.Reaches diskExec (d.setLock file true) d') :
    (fileLock file lockedMessage failurePrefix {} body).Reaches diskExec d d' := by
  rw [fileLock, Prog.perform_attempt_bind, Prog.reaches_call]
  refine .inr ?_
  have hcreate : diskExec (.createLock none file) d = (.ok (), d.setLock file true) := by
    simp [diskExec, orRaise, hfree]
  rw [hcreate]
  dsimp only
  rw [Prog.reaches_bind, Prog.reaches_attempt, Prog.reaches_bind, Prog.run_perform]
  exact .inl (.inr ⟨(), _, rfl, h⟩)

/-- A lock that was free is free again. -/
theorem setLock_locks_free {d' : Disk Json} (hfree : d.locks file = false)
    (hlocks : d'.locks = (d.setLock file true).locks) :
    (d'.setLock file false).locks = d.locks := by
  rw [setLock_locks, hlocks, setLock_locks, Function.update_idem, ← hfree, Function.update_eq_self]

end Locks

/-! ## Reading and writing -/

variable {d : Disk Json} {m m' : RunManifest Json} {run : Run}

theorem manifest_of_stored (h : d.stored = some m) : d.manifest = some (.holds m) := by
  unfold Disk.stored at h
  split at h
  · next heq => rw [heq, Option.some.inj h]
  · cases h

theorem loadManifest_run (h : d.stored = some m) :
    (loadManifest run none).run diskExec d = (.ok m, d) := by
  rw [loadManifest, Prog.perform_attempt_bind, Prog.run_call]
  simp [diskExec, manifest_of_stored h]

/-- A write replaces the manifest and touches no lock. -/
theorem writeManifest_run (m' : RunManifest Json) (d : Disk Json) :
    (writeManifest run {} m').run diskExec d =
      (.ok (), { d with manifest := some (.holds m'), temp := none }) := by
  rw [writeManifest, Prog.run_rescue]
  rfl

variable [DecidableEq Json]

/-- The manifest becomes `m'` and the locks are left. -/
def Stores (r : Except Raised (RunManifest Json) × Disk Json) (d : Disk Json)
    (m' : RunManifest Json) : Prop :=
  ∃ d', r = (.ok m', d') ∧ d'.stored = some m' ∧ d'.locks = d.locks

omit [DecidableEq Json] in
/-- A locked section stores what the section does. -/
theorem Stores.locked {body : StoreRun Json (RunManifest Json)}
    (hfree : d.locks .manifest = false)
    (h : Stores (body.run diskExec (d.setLock .manifest true)) (d.setLock .manifest true) m') :
    Stores ((manifestLock {} body).run diskExec d) d m' := by
  obtain ⟨d', hrun, hstored, hlocks⟩ := h
  have hheld : (body.run diskExec (d.setLock .manifest true)).2.locks .manifest = true := by
    rw [hrun, hlocks]
    simp
  rw [manifestLock, fileLock_run_free hfree hheld, hrun]
  exact ⟨_, rfl, hstored, setLock_locks_free hfree hlocks⟩

theorem recordStepResult_run (run : Run) (hd : d.stored = some m) (hfree : d.locks .manifest = false)
    (result : StepResult Json) (replaceSucceeded : Bool) :
    Stores ((recordStepResult run {} result replaceSucceeded false).run diskExec d) d
      (m.withStepResult result replaceSucceeded) := by
  have hlocked : (d.setLock .manifest true).stored = some m := hd
  rw [recordStepResult, if_neg (by simp)]
  refine .locked hfree ?_
  rw [stepResultSection, Prog.run_bind, loadManifest_run hlocked]
  dsimp only
  rw [if_neg (by decide)]
  by_cases hsame : m.withStepResult result replaceSucceeded = m
  · rw [hsame]
    simp [Prog.when, Stores, hlocked]
  · simp [Prog.when, Stores, hsame, Prog.run_bind, writeManifest_run, Disk.stored]

omit [DecidableEq Json] in
theorem recordBootAttempt_run (run : Run) (hd : d.stored = some m) (hfree : d.locks .manifest = false)
    (attempt : BootAttempt Json) (bootResult : StepResult Json) :
    Stores ((recordBootAttempt run {} attempt bootResult).run diskExec d) d
      ((m.withBootAttempt attempt).withStepResult bootResult true) := by
  have hlocked : (d.setLock .manifest true).stored = some m := hd
  rw [recordBootAttempt]
  refine .locked hfree ?_
  rw [bootAttemptSection, Prog.run_bind, loadManifest_run hlocked]
  simp [Stores, Prog.run_bind, writeManifest_run, Disk.stored]

/-- A held manifest lock refuses every update. -/
theorem recordStepResult_held (hheld : d.locks .manifest = true) (result : StepResult Json)
    (replaceSucceeded : Bool) :
    (recordStepResult run {} result replaceSucceeded false).run diskExec d =
      (.error (.manifestState "manifest is locked"), d) := by
  rw [recordStepResult, if_neg (by simp), manifestLock]
  exact fileLock_run_held hheld

/-! ## A manifest that can always be read -/

/-- A call keeps the manifest readable. -/
def Readable (o : DiskOp Json) (d : Disk Json) : Prop :=
  d.stored.isSome = true → (diskExec o d).2.stored.isSome = true

/-- Every call of a program keeps the manifest readable. -/
structure Safe {α : Type} (p : StoreRun Json α) : Prop where
  keeps : ∀ d, p.wp (watching diskExec Readable) (fun _ _ => True) d

namespace Safe

variable {α β : Type} {p : StoreRun Json α} {f : α → StoreRun Json β}

omit [DecidableEq Json]

/-- Wherever the program is cut, the manifest can be read. -/
theorem reaches (h : Safe p) (hd : d.stored.isSome = true) {d' : Disk Json}
    (hcut : p.Reaches diskExec d d') : d'.stored.isSome = true :=
  watching_reaches (C := Readable) (I := fun d => d.stored.isSome = true)
    (fun _ _ hC hI => hC hI) (h.keeps d) hd hcut

theorem ret (a : α) : Safe (.ret a : StoreRun Json α) := ⟨fun _ => trivial⟩

theorem raise (e : Raised) : Safe (.raise e : StoreRun Json α) := ⟨fun _ => trivial⟩

theorem of_calls (h : p.Calls DiskOp.KeepsManifest) : Safe p where
  keeps := by
    intro d
    refine h.wp (K := fun _ => True) (fun o ho R d _ hR => ⟨fun hd => ?_, hR _ _ trivial⟩)
      (fun _ _ _ => trivial) trivial
    rwa [stored_of_manifest (diskExec_manifest ho d)]

theorem bind (hp : Safe p) (hf : ∀ a, Safe (f a)) : Safe (p >>= f) where
  keeps := by
    intro d
    rw [Prog.wp_bind]
    refine Prog.wp_mono (watching_mono _) (fun r d' _ => ?_) (hp.keeps d)
    cases r with
    | ok a => exact (hf a).keeps d'
    | error e => trivial

theorem attempt (hp : Safe p) : Safe p.attempt where
  keeps := fun d => (Prog.wp_attempt p).mpr (hp.keeps d)

theorem rescue (hp : Safe p) {handler : Raised → StoreRun Json α} (hh : ∀ e, Safe (handler e)) :
    Safe (p.rescue handler) := by
  refine hp.attempt.bind fun r => ?_
  cases r with
  | ok a => exact .ret a
  | error e => exact hh e

theorem void (hp : Safe p) : Safe p.void := hp.bind fun _ => .ret ()

end Safe

omit [DecidableEq Json] in
theorem releaseLock_calls (file : LockFile) (faults : LockFaults) :
    (releaseLock file faults : StoreRun Json Unit).Calls DiskOp.KeepsManifest := by
  refine .bind (.call trivial) fun _ => ?_
  rw [Prog.perform_attempt_bind]
  refine ⟨trivial, fun r => ?_⟩
  match r with
  | .ok _ => trivial
  | .error .fileNotFound => trivial
  | .error .fileExists | .error (.os _) | .error (.validation _) | .error (.value _)
  | .error (.manifestState _) | .error (.other _) => trivial

omit [DecidableEq Json] in
theorem fileLock_safe {α : Type} (file : LockFile) (lockedMessage failurePrefix : String)
    (faults : LockFaults) {body : StoreRun Json α} (hbody : Safe body) :
    Safe (fileLock file lockedMessage failurePrefix faults body) := by
  have hcreate : Safe (system (.createLock faults.create file) : StoreRun Json Unit).attempt :=
    .attempt (.of_calls (.call trivial))
  refine hcreate.bind fun r => ?_
  match r with
  | .error .fileExists => exact .raise _
  | .error .fileNotFound | .error (.os _) | .error (.validation _) | .error (.value _)
  | .error (.manifestState _) | .error (.other _) => exact .raise _
  | .ok _ =>
      have hwrite : Safe (system (.writePid faults.write) : StoreRun Json Unit) :=
        .of_calls (.call trivial)
      refine (hwrite.bind fun _ => hbody).attempt.bind fun result => ?_
      exact (Safe.of_calls (releaseLock_calls file faults)).bind fun _ =>
        .of_calls (Prog.calls_ofExcept result)

/-- An update keeps the manifest readable. -/
theorem call_safe (c : Call Json) : Safe c.program := by
  refine ⟨fun d => ?_⟩
  refine watching_weaken (fun o d' hupdates hreadable => ?_)
    (Prog.wp_mono (watching_mono _) (fun _ _ _ => trivial) (program_wp c d))
  rcases hupdates with hsame | ⟨_, m', _, _, hstored⟩
  · rwa [hsame]
  · rw [hstored]
    rfl

theorem recordStepResult_safe (run : Run) (faults : UpdateFaults) (result : StepResult Json)
    (replaceSucceeded append : Bool) :
    Safe (recordStepResult run faults result replaceSucceeded append) :=
  call_safe ⟨run, .step result replaceSucceeded append, faults⟩

theorem recordBootAttempt_safe (run : Run) (faults : UpdateFaults) (attempt : BootAttempt Json)
    (bootResult : StepResult Json) : Safe (recordBootAttempt run faults attempt bootResult) :=
  call_safe ⟨run, .boot attempt bootResult, faults⟩

omit [DecidableEq Json] in
theorem loadManifest_safe (run : Run) (fault : Option Raised) :
    Safe (loadManifest run fault : StoreRun Json (RunManifest Json)) := by
  refine .of_calls ?_
  rw [loadManifest, Prog.perform_attempt_bind]
  refine ⟨trivial, fun r => ?_⟩
  cases r <;> trivial

end Kdive.Artifacts

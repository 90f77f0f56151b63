import Kdive.Artifacts.Manifest
import Kdive.Lib.Interleaving

/-!
# The artifact store

The files of a run directory and the programs that lock and update its manifest.

*Locks.*  A lock is a file created with `O_EXCL`, so creating it fails at once while
it exists.  It is removed at the end of the locked section, unless closing it or
removing it raises.

*Updates.*  An update reads the manifest under the lock, writes the new one to a
temporary file, and renames that file over the manifest.  All updates share the
temporary file.

*Faults.*  Every system call may raise.  What a call comes to is given with it, as
the text of the `OSError` it raises.
-/

namespace Kdive.Artifacts

open Program Interleaving

/-- A lock file. -/
inductive LockFile where
  /-- `.manifest.lock` -/
  | manifest
  /-- `.boot.lock` -/
  | boot
  /-- `.tests.lock` -/
  | tests
  /-- `target-<ref>.lock` in the runtime directory -/
  | target (targetRef : String)
deriving DecidableEq, Repr

/-- An exception. -/
inductive Raised where
  | fileExists
  | fileNotFound
  | os (text : String)
  | validation (text : String)
  | value (text : String)
  | manifestState (message : String)
  | other (text : String)
deriving DecidableEq, Repr

namespace Raised

/-- The text of an exception. -/
def text : Raised → String
  | .fileExists => "File exists"
  | .fileNotFound => "No such file or directory"
  | .os text | .validation text | .value text | .other text => text
  | .manifestState message => message

/-- It is an `OSError`. -/
def isOs : Raised → Bool
  | .fileExists | .fileNotFound | .os _ => true
  | .validation _ | .value _ | .manifestState _ | .other _ => false

end Raised

/-- What is in a file. -/
inductive FileContent (Json : Type) where
  /-- A file that was not written to its end. -/
  | torn
  | holds (m : RunManifest Json)
deriving DecidableEq, Repr

/-- The files of a run, and the lock files. -/
structure Disk (Json : Type) where
  /-- `manifest.json` -/
  manifest : Option (FileContent Json)
  /-- `.manifest.json.tmp` -/
  temp : Option (FileContent Json)
  /-- The lock files that exist. -/
  locks : LockFile → Bool

/-- The manifest that a reader finds. -/
def Disk.stored {Json : Type} (d : Disk Json) : Option (RunManifest Json) :=
  match d.manifest with
  | some (.holds m) => some m
  | _ => none

/-- The files of a new run. -/
def Disk.fresh {Json : Type} : Disk Json where
  manifest := some (.holds .create)
  temp := none
  locks := fun _ => false

/-- A system call.  Its first argument is the text of what it raises, if it does. -/
inductive DiskOp (Json : Type) where
  /-- `os.open(lock_path, O_CREAT | O_EXCL | O_WRONLY)` -/
  | createLock (fault : Option String) (file : LockFile)
  /-- `os.write(fd, pid)` -/
  | writePid (fault : Option String)
  /-- `os.close(fd)` -/
  | closeLock (fault : Option String)
  /-- `lock_path.unlink()` -/
  | unlinkLock (fault : Option String) (file : LockFile)
  /-- `manifest_path.is_file()` -/
  | isFile
  /-- `model_validate_json(manifest_path.read_text())` -/
  | readManifest (fault : Option Raised)
  /-- `model_dump_json()` -/
  | dump (fault : Option String)
  /-- `temp_path.write_text`, up to the truncation of the file -/
  | truncateTemp (fault : Option String)
  /-- `temp_path.write_text`, the rest -/
  | writeTemp (fault : Option String) (m : RunManifest Json)
  /-- `os.replace(temp_path, manifest_path)` -/
  | replaceTemp (fault : Option String)
  /-- `temp_path.unlink()` -/
  | unlinkTemp (fault : Option String)

variable {Json : Type}

/-- What a call responds. -/
@[reducible] def DiskResp : DiskOp Json → Type
  | .isFile => Bool
  | .readManifest _ => RunManifest Json
  | _ => Unit

/-- A call that raises what it is given and otherwise acts. -/
def orRaise {α : Type} (fault : Option String) (d : Disk Json) (act : Except Raised α × Disk Json) :
    Except Raised α × Disk Json :=
  match fault with
  | some text => (.error (.os text), d)
  | none => act

/-- A lock file appears or goes. -/
def Disk.setLock (d : Disk Json) (file : LockFile) (there : Bool) : Disk Json :=
  { d with locks := Function.update d.locks file there }

/-- The calls. -/
def diskExec : (o : DiskOp Json) → Disk Json → Except Raised (DiskResp o) × Disk Json
  | .createLock fault file, d =>
      orRaise fault d
        (if d.locks file = true then (.error .fileExists, d) else (.ok (), d.setLock file true))
  | .writePid fault, d => orRaise fault d (.ok (), d)
  | .closeLock fault, d => orRaise fault d (.ok (), d)
  | .unlinkLock fault file, d =>
      orRaise fault d
        (if d.locks file = true then (.ok (), d.setLock file false) else (.error .fileNotFound, d))
  | .isFile, d => (.ok d.manifest.isSome, d)
  | .readManifest fault, d =>
      match fault, d.manifest with
      | some e, _ => (.error e, d)
      | none, none => (.error .fileNotFound, d)
      | none, some .torn => (.error (.validation "Invalid JSON"), d)
      | none, some (.holds m) => (.ok m, d)
  | .dump fault, d =>
      match fault with
      | some text => (.error (.value text), d)
      | none => (.ok (), d)
  | .truncateTemp fault, d => orRaise fault d (.ok (), { d with temp := some .torn })
  | .writeTemp fault m, d => orRaise fault d (.ok (), { d with temp := some (.holds m) })
  | .replaceTemp fault, d =>
      orRaise fault d
        (match d.temp with
        | none => (.error .fileNotFound, d)
        | some file => (.ok (), { d with manifest := some file, temp := none }))
  | .unlinkTemp fault, d =>
      orRaise fault d
        (match d.temp with
        | none => (.error .fileNotFound, d)
        | some _ => (.ok (), { d with temp := none }))

/-! ## What the calls change -/

@[simp] theorem setLock_locks (d : Disk Json) (file : LockFile) (there : Bool) :
    (d.setLock file there).locks = Function.update d.locks file there := rfl

@[simp] theorem setLock_manifest (d : Disk Json) (file : LockFile) (there : Bool) :
    (d.setLock file there).manifest = d.manifest := rfl

@[simp] theorem setLock_temp (d : Disk Json) (file : LockFile) (there : Bool) :
    (d.setLock file there).temp = d.temp := rfl

/-- A lock is created when it does not exist. -/
theorem createLock_cases (fault : Option String) (file : LockFile) (d : Disk Json) :
    (∃ e, diskExec (.createLock fault file) d = (.error e, d)) ∨
      d.locks file = false ∧ diskExec (.createLock fault file) d = (.ok (), d.setLock file true) := by
  cases fault with
  | some text => exact .inl ⟨_, rfl⟩
  | none =>
      cases hlock : d.locks file with
      | true => exact .inl ⟨.fileExists, by simp [diskExec, orRaise, hlock]⟩
      | false => exact .inr ⟨rfl, by simp [diskExec, orRaise, hlock]⟩

/-- A lock is removed when it exists. -/
theorem unlinkLock_cases (fault : Option String) (file : LockFile) (d : Disk Json) :
    (∃ e, diskExec (.unlinkLock fault file) d = (.error e, d)) ∨
      d.locks file = true ∧ diskExec (.unlinkLock fault file) d = (.ok (), d.setLock file false) := by
  cases fault with
  | some text => exact .inl ⟨_, rfl⟩
  | none =>
      cases hlock : d.locks file with
      | true => exact .inr ⟨rfl, by simp [diskExec, orRaise, hlock]⟩
      | false => exact .inl ⟨.fileNotFound, by simp [diskExec, orRaise, hlock]⟩

/-- The calls that neither create nor remove a lock file. -/
def DiskOp.KeepsLocks : DiskOp Json → Prop
  | .createLock .. | .unlinkLock .. => False
  | _ => True

theorem DiskOp.keepsLocks_or (o : DiskOp Json) : o.KeepsLocks ∨
    (∃ fault file, o = .createLock fault file) ∨ ∃ fault file, o = .unlinkLock fault file := by
  cases o with
  | createLock fault file => exact .inr (.inl ⟨fault, file, rfl⟩)
  | unlinkLock fault file => exact .inr (.inr ⟨fault, file, rfl⟩)
  | _ => exact .inl trivial

theorem diskExec_locks {o : DiskOp Json} (h : o.KeepsLocks) (d : Disk Json) :
    (diskExec o d).2.locks = d.locks := by
  cases o with
  | createLock fault file => exact h.elim
  | unlinkLock fault file => exact h.elim
  | readManifest fault =>
      cases fault <;> rcases hfile : d.manifest with _ | _ | _ <;> simp [diskExec, hfile]
  | isFile => rfl
  | dump fault => cases fault <;> rfl
  | writePid fault => cases fault <;> rfl
  | closeLock fault => cases fault <;> rfl
  | truncateTemp fault => cases fault <;> rfl
  | writeTemp fault m => cases fault <;> rfl
  | replaceTemp fault =>
      cases fault <;> rcases htemp : d.temp with _ | _ <;> simp [diskExec, orRaise, htemp]
  | unlinkTemp fault =>
      cases fault <;> rcases htemp : d.temp with _ | _ <;> simp [diskExec, orRaise, htemp]

/-- The calls that leave the manifest file. -/
def DiskOp.KeepsManifest : DiskOp Json → Prop
  | .replaceTemp _ => False
  | _ => True

theorem diskExec_manifest {o : DiskOp Json} (h : o.KeepsManifest) (d : Disk Json) :
    (diskExec o d).2.manifest = d.manifest := by
  cases o with
  | replaceTemp fault => exact h.elim
  | createLock fault file =>
      obtain ⟨e, heq⟩ | ⟨_, heq⟩ := createLock_cases fault file d <;> rw [heq]
      rfl
  | unlinkLock fault file =>
      obtain ⟨e, heq⟩ | ⟨_, heq⟩ := unlinkLock_cases fault file d <;> rw [heq]
      rfl
  | readManifest fault =>
      cases fault <;> rcases hfile : d.manifest with _ | _ | _ <;> simp [diskExec, hfile]
  | isFile => rfl
  | dump fault => cases fault <;> rfl
  | writePid fault => cases fault <;> rfl
  | closeLock fault => cases fault <;> rfl
  | truncateTemp fault => cases fault <;> rfl
  | writeTemp fault m => cases fault <;> rfl
  | unlinkTemp fault =>
      cases fault <;> rcases htemp : d.temp with _ | _ <;> simp [diskExec, orRaise, htemp]

theorem stored_of_manifest {d d' : Disk Json} (h : d'.manifest = d.manifest) :
    d'.stored = d.stored := by
  rw [Disk.stored, Disk.stored, h]

/-! ## Programs -/

/-- A program over the files. -/
abbrev StoreRun (Json α : Type) : Type := @Prog (DiskOp Json) DiskResp Raised α

/-- Make a call. -/
abbrev system (o : DiskOp Json) : StoreRun Json (DiskResp o) := Prog.perform o

/-! ## Locks -/

/-- What the system calls of a lock come to. -/
structure LockFaults where
  create : Option String := none
  write : Option String := none
  close : Option String := none
  unlink : Option String := none
deriving DecidableEq, Repr

/-- Releasing the lock raises. -/
def LockFaults.ReleaseRaises (faults : LockFaults) : Prop :=
  faults.close ≠ none ∨ faults.unlink ≠ none

instance (faults : LockFaults) : Decidable faults.ReleaseRaises :=
  inferInstanceAs (Decidable (_ ∨ _))

/-- The `finally` of `_file_lock`. -/
def releaseLock (file : LockFile) (faults : LockFaults) : StoreRun Json Unit := do
  system (.closeLock faults.close)
  match ← (system (.unlinkLock faults.unlink file)).attempt with
  | .error .fileNotFound => return ()
  | .error e => .raise e
  | .ok _ => return ()

/-- `_file_lock` around a section. -/
def fileLock {α : Type} (file : LockFile) (lockedMessage failurePrefix : String)
    (faults : LockFaults) (body : StoreRun Json α) : StoreRun Json α := do
  match ← (system (.createLock faults.create file)).attempt with
  | .error .fileExists => .raise (.manifestState lockedMessage)
  | .error e => .raise (.manifestState s!"{failurePrefix}: {e.text}")
  | .ok _ =>
      let result ← (do system (.writePid faults.write); body : StoreRun Json α).attempt
      releaseLock file faults
      Prog.ofExcept result

/-- `_manifest_lock` -/
def manifestLock {α : Type} : LockFaults → StoreRun Json α → StoreRun Json α :=
  fileLock .manifest "manifest is locked" "failed to lock manifest"

/-! ## Reading and writing the manifest -/

/-- A run and the directory it is kept in. -/
structure Run where
  runId : String
  runDir : String
deriving DecidableEq, Repr

/-- What `load_manifest` raises for what reading and parsing the file raised. -/
def readError (run : Run) : Raised → Raised
  | .value text => .value text
  | .other text => .other text
  | e => .manifestState s!"failed to read manifest for {run.runId}: {e.text}"

/-- `load_manifest` -/
def loadManifest (run : Run) (fault : Option Raised) : StoreRun Json (RunManifest Json) := do
  match ← (system (.readManifest fault)).attempt with
  | .ok m => return m
  | .error e => .raise (readError run e)

/-- What the system calls of an update come to. -/
structure UpdateFaults where
  lock : LockFaults := {}
  read : Option Raised := none
  dump : Option String := none
  truncateTemp : Option String := none
  writeTemp : Option String := none
  replaceTemp : Option String := none
  unlinkTemp : Option String := none
deriving DecidableEq, Repr

/-- The handler of `_write_manifest`. -/
def discardTemp (run : Run) (faults : UpdateFaults) (e : Raised) : StoreRun Json Unit :=
  if e.isOs = true then do
    match ← (system (.unlinkTemp faults.unlinkTemp)).attempt with
    | .error (.os text) => .raise (.os text)
    | _ => .raise (.manifestState
        s!"failed to write manifest for {run.runId} at {run.runDir}/manifest.json: {e.text}")
  else .raise e

/-- `_write_manifest` -/
def writeManifest (run : Run) (faults : UpdateFaults) (m : RunManifest Json) :
    StoreRun Json Unit :=
  Prog.rescue
    (do
      system (.dump faults.dump)
      system (.truncateTemp faults.truncateTemp)
      system (.writeTemp faults.writeTemp m)
      system (.replaceTemp faults.replaceTemp))
    (discardTemp run faults)

/-! ## The updates -/

variable [DecidableEq Json]

/-- The locked section of `record_step_result`. -/
def stepResultSection (run : Run) (faults : UpdateFaults) (result : StepResult Json)
    (replaceSucceeded append : Bool) : StoreRun Json (RunManifest Json) := do
  let manifest ← loadManifest run faults.read
  let updated ← (if append = true then
    (match manifest.appendStepResult result with
    | .error text => .raise (.manifestState text)
    | .ok updated => .ret updated)
    else .ret (manifest.withStepResult result replaceSucceeded) :
      StoreRun Json (RunManifest Json))
  Prog.when (updated ≠ manifest) (writeManifest run faults updated)
  return updated

/-- `record_step_result` -/
def recordStepResult (run : Run) (faults : UpdateFaults) (result : StepResult Json)
    (replaceSucceeded append : Bool) : StoreRun Json (RunManifest Json) :=
  if append = true ∧ replaceSucceeded = true then
    .raise (.value "append=True is incompatible with replace_succeeded=True")
  else manifestLock faults.lock (stepResultSection run faults result replaceSucceeded append)

/-- The locked section of `record_boot_attempt`. -/
def bootAttemptSection (run : Run) (faults : UpdateFaults) (attempt : BootAttempt Json)
    (bootResult : StepResult Json) : StoreRun Json (RunManifest Json) := do
  let manifest ← loadManifest run faults.read
  let updated := (manifest.withBootAttempt attempt).withStepResult bootResult true
  writeManifest run faults updated
  return updated

/-- `record_boot_attempt` -/
def recordBootAttempt (run : Run) (faults : UpdateFaults) (attempt : BootAttempt Json)
    (bootResult : StepResult Json) : StoreRun Json (RunManifest Json) :=
  manifestLock faults.lock (bootAttemptSection run faults attempt bootResult)

/-! ## Callers -/

/-- A call of the store and what its system calls come to. -/
structure Call (Json : Type) where
  run : Run
  update : Update Json
  faults : UpdateFaults := {}

/-- The program of a call. -/
def Call.program (c : Call Json) : StoreRun Json (RunManifest Json) :=
  match c.update with
  | .step result replaceSucceeded append =>
      recordStepResult c.run c.faults result replaceSucceeded append
  | .boot attempt bootResult => recordBootAttempt c.run c.faults attempt bootResult

/-- Callers of the store, each in a thread of its own. -/
def machine : @Machine (DiskOp Json) DiskResp Raised (Disk Json) (Call Json) where
  exec := diskExec
  ready := fun _ _ => true
  body := fun c => c.program.void
  spawns := fun _ _ => []

end Kdive.Artifacts

import Kdive.Coordination.Registry
import Kdive.Coordination.RegistryNames
import Kdive.Lib.DurableCell
import Kdive.Lib.Solo

/-!
# The registry on disk

The registry's calls, one access to the directory after the other.  A file is written under its
temporary name, synced and then put in the place of the one there is, and the directory is synced
behind that.  Any access may raise, a write may get through in part, and a sync of the directory
that fails is only logged.

*Disk.*  A name has what the directory says of it now and what it said since it was last synced
(`Durable.Cell`).  A sync of the directory counts for the names of the call that makes it alone.  A
power loss brings back any of it, name by name, and a file that was not synced holds anything.
-/

namespace Kdive.Registry

open Program Prog

/-! ## Disk -/

/-- What a file holds, and whether the disk has it. -/
structure File where
  octets : List Nat
  synced : Bool
deriving DecidableEq, Repr

/-- The registry directory. -/
abbrev Disk := Text → Durable.Cell File

/-- What an access raises. -/
inductive DiskError where
  /-- `OSError` -/
  | os
  /-- `ValueError`: an integer has too many digits, or a file is not text. -/
  | value
  /-- `RecursionError` -/
  | recursion
  /-- `JSONDecodeError`, `KeyError`, `TypeError` or `ValidationError`: the text is not what it
  should be. -/
  | malformed
  /-- `OverflowError` -/
  | overflow
deriving DecidableEq, Repr

/-- An access to the directory, and whether it fails. -/
inductive DiskOp where
  /-- `open(name, "w")` -/
  | create (name : Text) (fails : Bool)
  /-- A write and a flush.  With a number so many octets get through, and it raises. -/
  | write (name : Text) (octets : List Nat) (through : Option Nat)
  /-- `os.fsync(handle.fileno())` -/
  | sync (name : Text) (fails : Bool)
  /-- `os.replace` -/
  | replace (src dst : Text) (fails : Bool)
  /-- `_fsync_dir` -/
  | syncDir (names : List Text) (fails : Bool)
  /-- `path.exists()` -/
  | present (name : Text)
  /-- `path.read_text()`, before it is decoded -/
  | read (name : Text) (fails : Bool)
  /-- `path.unlink(missing_ok=True)` -/
  | unlink (name : Text) (fails : Bool)

namespace DiskOp

/-- What an access answers. -/
abbrev Answer : DiskOp → Type
  | .present _ => Bool
  | .read _ _ => List Nat
  | _ => Unit

/-- The names an access is about. -/
def names : DiskOp → List Text
  | .create name _ | .write name _ _ | .sync name _ | .present name | .read name _
  | .unlink name _ => [name]
  | .replace src dst _ => [src, dst]
  | .syncDir names _ => names

/-- One name anew. -/
def setName (disk : Disk) (name : Text) (cell : Durable.Cell File) : Disk :=
  Function.update disk name cell

/-- A file with so many octets more. -/
def appended (cell : Durable.Cell File) (octets : List Nat) : Durable.Cell File :=
  match cell.now with
  | none => cell
  | some file => cell.put (some ⟨file.octets ++ octets, false⟩)

/-- The disk has what the file holds. -/
def synced (cell : Durable.Cell File) : Durable.Cell File :=
  ⟨cell.now.map fun file => { file with synced := true }, cell.past⟩

/-- A name without its file. -/
def unlinked (cell : Durable.Cell File) : Durable.Cell File :=
  if cell.now = none then cell else cell.put none

/-- What an access does. -/
def exec : (op : DiskOp) → Disk → Except DiskError op.Answer × Disk
  | .create name fails, disk =>
      if fails then (.error .os, disk)
      else (.ok (), setName disk name ((disk name).put (some ⟨[], false⟩)))
  | .write name octets through, disk =>
      match through with
      | none => (.ok (), setName disk name (appended (disk name) octets))
      | some n => (.error .os, setName disk name (appended (disk name) (octets.take n)))
  | .sync name fails, disk =>
      if fails then (.error .os, disk) else (.ok (), setName disk name (synced (disk name)))
  | .replace src dst fails, disk =>
      match (disk src).now with
      | none => (.error .os, disk)
      | some file =>
          if fails then (.error .os, disk)
          else (.ok (), setName (setName disk src ((disk src).put none)) dst
            ((disk dst).put (some file)))
  | .syncDir names fails, disk =>
      (.ok (), if fails then disk
        else fun name => if name ∈ names then (disk name).settle else disk name)
  | .present name, disk => (.ok (disk name).now.isSome, disk)
  | .read name fails, disk =>
      match (disk name).now with
      | none => (.error .os, disk)
      | some file => if fails then (.error .os, disk) else (.ok file.octets, disk)
  | .unlink name fails, disk =>
      if fails then (.error .os, disk) else (.ok (), setName disk name (unlinked (disk name)))

@[simp] theorem setName_self (disk : Disk) (name : Text) (cell : Durable.Cell File) :
    setName disk name cell name = cell := Function.update_self ..

theorem setName_ne (disk : Disk) {name name' : Text} (h : name' ≠ name) (cell : Durable.Cell File) :
    setName disk name cell name' = disk name' := Function.update_of_ne h ..

theorem setName_congr {disk disk' : Disk} (name : Text) (cell : Durable.Cell File) {name' : Text}
    (h : disk name' = disk' name') : setName disk name cell name' = setName disk' name cell name' := by
  by_cases hname : name' = name
  · rw [hname, setName_self, setName_self]
  · rw [setName_ne _ hname, setName_ne _ hname, h]

/-- An access leaves the other names. -/
theorem exec_other (op : DiskOp) (disk : Disk) {name : Text} (h : name ∉ op.names) :
    (exec op disk).2 name = disk name := by
  cases op with
  | create name' fails | sync name' fails | unlink name' fails =>
      have hne : name ≠ name' := fun heq => h (heq ▸ List.mem_singleton_self _)
      cases fails with
      | true => rfl
      | false => exact setName_ne disk hne _
  | write name' octets through =>
      have hne : name ≠ name' := fun heq => h (heq ▸ List.mem_singleton_self _)
      cases through with
      | none => exact setName_ne disk hne _
      | some n => exact setName_ne disk hne _
  | replace src dst fails =>
      have hsrc : name ≠ src := fun heq => h (heq ▸ List.mem_cons_self)
      have hdst : name ≠ dst := fun heq => h (heq ▸ List.mem_cons_of_mem _ List.mem_cons_self)
      simp only [exec]
      split
      · rfl
      · split
        · rfl
        · exact (setName_ne _ hdst _).trans (setName_ne disk hsrc _)
  | syncDir names fails =>
      cases fails with
      | true => rfl
      | false => exact if_neg h
  | present name' => rfl
  | read name' fails =>
      simp only [exec]
      split
      · rfl
      · split <;> rfl

/-- What an access answers and does is a matter of its names. -/
theorem exec_congr (op : DiskOp) {disk disk' : Disk} (h : ∀ name ∈ op.names, disk name = disk' name) :
    (exec op disk).1 = (exec op disk').1 ∧
      ∀ name ∈ op.names, (exec op disk).2 name = (exec op disk').2 name := by
  cases op with
  | create name fails | sync name fails | unlink name fails =>
      have hname : disk name = disk' name := h name (List.mem_singleton_self _)
      cases fails with
      | true => exact ⟨rfl, h⟩
      | false =>
          refine ⟨rfl, fun n hn => ?_⟩
          simp only [exec, Bool.false_eq_true, if_false, hname]
          exact setName_congr _ _ (h n hn)
  | write name octets through =>
      have hname : disk name = disk' name := h name (List.mem_singleton_self _)
      cases through with
      | none =>
          refine ⟨rfl, fun n hn => ?_⟩
          simp only [exec, hname]
          exact setName_congr _ _ (h n hn)
      | some count =>
          refine ⟨rfl, fun n hn => ?_⟩
          simp only [exec, hname]
          exact setName_congr _ _ (h n hn)
  | replace src dst fails =>
      have hsrc : disk src = disk' src := h src List.mem_cons_self
      have hdst : disk dst = disk' dst := h dst (List.mem_cons_of_mem _ List.mem_cons_self)
      simp only [exec, hsrc, hdst]
      split
      · exact ⟨rfl, h⟩
      · split
        · exact ⟨rfl, h⟩
        · exact ⟨rfl, fun n hn => setName_congr _ _ (setName_congr _ _ (h n hn))⟩
  | syncDir names fails =>
      cases fails with
      | true => exact ⟨rfl, h⟩
      | false =>
          refine ⟨rfl, fun n hn => ?_⟩
          simp only [exec, Bool.false_eq_true, if_false, h n hn]
  | present name =>
      have hname : disk name = disk' name := h name (List.mem_singleton_self _)
      refine ⟨?_, h⟩
      simp only [exec, hname]
  | read name fails =>
      have hname : disk name = disk' name := h name (List.mem_singleton_self _)
      simp only [exec, hname]
      split
      · exact ⟨rfl, h⟩
      · split
        · exact ⟨rfl, h⟩
        · exact ⟨rfl, h⟩

end DiskOp

/-! ## The calls -/

/-- Which accesses of a call fail. -/
structure Fates where
  create : Bool
  /-- With a number, so much of the text gets through. -/
  through : Option Nat
  sync : Bool
  replace : Bool
  syncDir : Bool
  read : Bool
  unlink : Bool

/-- How a value stands in a file. -/
structure Codec (α : Type) where
  /-- The octets that `json.dump` writes, unless it raises. -/
  encode : α → Option (List Nat)
  /-- What is read. -/
  load : List Nat → Except DiskError α
  load_encode : ∀ value octets, encode value = some octets → load octets = .ok value

/-- What the registry keeps. -/
structure Format (R : Type) where
  sha256 : Sha256
  records : Codec R
  tombs : Codec RecoveryTombstone
  target : R → TargetKey
  sessionId : R → Text

/-- A call as the accesses it makes. -/
abbrev Script := Prog DiskOp.Answer DiskError

/-- Make one access. -/
abbrev access (op : DiskOp) : Script op.Answer := perform op

/-- A call that changes the registry. -/
inductive Call (R : Type) where
  | writeRecord (session : R)
  | deleteRecord (targetKey : TargetKey) (expectedSessionId : Option Text)
  | writeTombstone (tombstone : RecoveryTombstone)
  | clearTombstone (targetKey : TargetKey) (expectedGeneration : Int)

/-- `_atomic_write_json` -/
def atomicWriteJson (name : Text) (payload : Option (List Nat)) (fates : Fates) : Script Unit := do
  access (.create (tmpName name) fates.create)
  let octets ← .ofExcept (payload.elim (.error .value) .ok)
  access (.write (tmpName name) octets fates.through)
  access (.sync (tmpName name) fates.sync)
  access (.replace (tmpName name) name fates.replace)
  access (.syncDir [name, tmpName name] fates.syncDir)

/-- Unlink a file that is there, and sync the directory. -/
def remove (name : Text) (fates : Fates) : Script Unit := do
  let existed ← access (.present name)
  access (.unlink name fates.unlink)
  Prog.when (existed = true) (access (.syncDir [name, tmpName name] fates.syncDir))

namespace Format

variable {R : Type} (format : Format R)

/-- `target_key.recovery_key()` -/
def digest (targetKey : TargetKey) : Script Text :=
  .ofExcept ((recoveryKey format.sha256 targetKey).elim (.error .overflow) .ok)

/-- `write_record` -/
def writeRecord (session : R) (fates : Fates) : Script Unit := do
  let digest ← format.digest (format.target session)
  atomicWriteJson (recordName digest) (format.records.encode session) fates

/-- `read_record` -/
def readRecord (targetKey : TargetKey) (fails : Bool) : Script (Option R) := do
  let digest ← format.digest targetKey
  if ← access (.present (recordName digest)) then
    let octets ← access (.read (recordName digest) fails)
    let record ← .ofExcept (format.records.load octets)
    pure (some record)
  else pure none

/-- The fence of `delete_record`. -/
def isMine (targetKey : TargetKey) (expectedSessionId : Option Text) (fails : Bool) : Script Bool :=
  match expectedSessionId with
  | none => pure true
  | some sessionId => do
      let existing ← format.readRecord targetKey fails
      pure (decide (existing.map format.sessionId = some sessionId))

/-- `delete_record` -/
def deleteRecord (targetKey : TargetKey) (expectedSessionId : Option Text) (fates : Fates) :
    Script Unit := do
  let mine ← format.isMine targetKey expectedSessionId fates.read
  Prog.when (mine = true) do
    let digest ← format.digest targetKey
    remove (recordName digest) fates

/-- `write_tombstone` -/
def writeTombstone (tombstone : RecoveryTombstone) (fates : Fates) : Script Unit := do
  let digest ← format.digest tombstone.targetKey
  atomicWriteJson (tombName digest) (format.tombs.encode tombstone) fates

/-- `_load_tombstone`: a marker that cannot be read is none. -/
def loadTombstone (name : Text) (fails : Bool) : Script (Option RecoveryTombstone) :=
  rescue (do
    let octets ← access (.read name fails)
    let tombstone ← .ofExcept (format.tombs.load octets)
    pure (some tombstone)) fun e => if e = .os ∨ e = .malformed then pure none else .raise e

/-- `read_tombstone` -/
def readTombstone (targetKey : TargetKey) (fails : Bool) : Script (Option RecoveryTombstone) := do
  let digest ← format.digest targetKey
  if ← access (.present (tombName digest)) then format.loadTombstone (tombName digest) fails
  else pure none

/-- The fence of `clear_tombstone`. -/
def isCurrent (targetKey : TargetKey) (expectedGeneration : Int) (fails : Bool) : Script Bool := do
  let existing ← format.readTombstone targetKey fails
  pure (decide (existing.map RecoveryTombstone.generation = some expectedGeneration))

/-- `clear_tombstone` -/
def clearTombstone (targetKey : TargetKey) (expectedGeneration : Int) (fates : Fates) :
    Script Unit := do
  let mine ← format.isCurrent targetKey expectedGeneration fates.read
  Prog.when (mine = true) do
    let digest ← format.digest targetKey
    remove (tombName digest) fates

/-- `list_records`, over the names that `glob` finds. -/
def listRecords : List Text → Script (List R)
  | [] => pure []
  | name :: names => do
      let octets ← access (.read name false)
      let record ← .ofExcept (format.records.load octets)
      let records ← listRecords names
      pure (record :: records)

end Format

namespace Call

variable {R : Type}

/-- The target of a call. -/
def target (format : Format R) : Call R → TargetKey
  | .writeRecord session => format.target session
  | .deleteRecord targetKey _ | .clearTombstone targetKey _ => targetKey
  | .writeTombstone tombstone => tombstone.targetKey

/-- What a call does. -/
def script (format : Format R) (fates : Fates) : Call R → Script Unit
  | .writeRecord session => format.writeRecord session fates
  | .deleteRecord targetKey expected => format.deleteRecord targetKey expected fates
  | .writeTombstone tombstone => format.writeTombstone tombstone fates
  | .clearTombstone targetKey expected => format.clearTombstone targetKey expected fates

end Call

end Kdive.Registry

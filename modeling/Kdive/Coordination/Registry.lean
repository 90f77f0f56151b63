import Mathlib.Data.List.Basic
import Kdive.Seams.TransportState

/-!
# The session registry

The durable store: one ownership record and one recovery tombstone per target,
each a file of its own.  A write replaces the file of its target, and a delete
removes it.  `list_records` reads every record, so the store keeps a list.

The fenced delete of the source reads the record, compares its session and then
unlinks the file.  The two accesses are separate operations here as they are
there, so another thread may act between them.
-/

namespace Kdive

/-- The durable marker of a parked kernel. -/
structure RecoveryTombstone where
  /-- The target. -/
  targetKey : TargetKey
  /-- The generation it was parked at. -/
  generation : Int
  /-- Why. -/
  reason : String
deriving DecidableEq, Repr

/-- The files of the registry directory. -/
structure SessionRegistry where
  /-- The ownership records. -/
  records : List TransportSession
  /-- The tombstones. -/
  tombstones : List RecoveryTombstone
deriving DecidableEq, Repr

namespace SessionRegistry

/-- An empty directory. -/
def empty : SessionRegistry := ⟨[], []⟩

/-- The record of a target. -/
def readRecord (r : SessionRegistry) (targetKey : TargetKey) : Option TransportSession :=
  r.records.find? fun record => record.targetKey = targetKey

/-- Remove the record of a target. -/
def unlinkRecord (r : SessionRegistry) (targetKey : TargetKey) : SessionRegistry :=
  { r with records := r.records.filter fun record => record.targetKey ≠ targetKey }

/-- Replace the record of its target. -/
def writeRecord (r : SessionRegistry) (session : TransportSession) : SessionRegistry :=
  { r with
    records := (r.records.filter fun record => record.targetKey ≠ session.targetKey) ++ [session] }

/-- The tombstone of a target. -/
def readTombstone (r : SessionRegistry) (targetKey : TargetKey) : Option RecoveryTombstone :=
  r.tombstones.find? fun tombstone => tombstone.targetKey = targetKey

/-- Remove the tombstone of a target. -/
def unlinkTombstone (r : SessionRegistry) (targetKey : TargetKey) : SessionRegistry :=
  { r with tombstones := r.tombstones.filter fun tombstone => tombstone.targetKey ≠ targetKey }

/-- Replace the tombstone of its target. -/
def writeTombstone (r : SessionRegistry) (tombstone : RecoveryTombstone) : SessionRegistry :=
  { r with
    tombstones :=
      (r.tombstones.filter fun t => t.targetKey ≠ tombstone.targetKey) ++ [tombstone] }

/-! ## Reading back -/

section ReadBack

/-- Looking a key up in a list from which another key was removed. -/
theorem find?_filter_ne {α : Type} (key : α → TargetKey) {l : List α} {k k' : TargetKey}
    (hne : k ≠ k') :
    (l.filter fun a => key a ≠ k').find? (fun a => key a = k) = l.find? (fun a => key a = k) := by
  rw [List.find?_filter]
  congr 1
  funext a
  by_cases h : key a = k
  · simp [h, hne]
  · simp [h]

theorem find?_filter_self {α : Type} (key : α → TargetKey) (l : List α) (k : TargetKey) :
    (l.filter fun a => key a ≠ k).find? (fun a => key a = k) = none := by
  rw [List.find?_eq_none]
  intro a ha
  simpa using (List.mem_filter.mp ha).2

variable (r : SessionRegistry) (session : TransportSession) (tombstone : RecoveryTombstone)
  (k k' : TargetKey)

@[simp] theorem readRecord_writeRecord_self :
    (r.writeRecord session).readRecord session.targetKey = some session := by
  have hnone := find?_filter_self TransportSession.targetKey r.records session.targetKey
  simp only [readRecord, writeRecord, List.find?_append, hnone]
  simp

theorem readRecord_writeRecord_ne (hne : k ≠ session.targetKey) :
    (r.writeRecord session).readRecord k = r.readRecord k := by
  simp only [readRecord, writeRecord, List.find?_append]
  rw [find?_filter_ne _ hne]
  simp [hne.symm]

@[simp] theorem readRecord_unlinkRecord_self : (r.unlinkRecord k).readRecord k = none :=
  find?_filter_self _ _ _

theorem readRecord_unlinkRecord_ne (hne : k ≠ k') :
    (r.unlinkRecord k').readRecord k = r.readRecord k :=
  find?_filter_ne _ hne

@[simp] theorem readTombstone_writeTombstone_self :
    (r.writeTombstone tombstone).readTombstone tombstone.targetKey = some tombstone := by
  have hnone := find?_filter_self RecoveryTombstone.targetKey r.tombstones
    tombstone.targetKey
  simp only [readTombstone, writeTombstone, List.find?_append, hnone]
  simp

theorem readTombstone_writeTombstone_ne (hne : k ≠ tombstone.targetKey) :
    (r.writeTombstone tombstone).readTombstone k = r.readTombstone k := by
  simp only [readTombstone, writeTombstone, List.find?_append]
  rw [find?_filter_ne _ hne]
  simp [hne.symm]

@[simp] theorem readTombstone_unlinkTombstone_self :
    (r.unlinkTombstone k).readTombstone k = none :=
  find?_filter_self _ _ _

theorem readTombstone_unlinkTombstone_ne (hne : k ≠ k') :
    (r.unlinkTombstone k').readTombstone k = r.readTombstone k :=
  find?_filter_ne _ hne

@[simp] theorem readTombstone_writeRecord :
    (r.writeRecord session).readTombstone k = r.readTombstone k := rfl

@[simp] theorem readTombstone_unlinkRecord :
    (r.unlinkRecord k').readTombstone k = r.readTombstone k := rfl

@[simp] theorem readRecord_writeTombstone :
    (r.writeTombstone tombstone).readRecord k = r.readRecord k := rfl

@[simp] theorem readRecord_unlinkTombstone :
    (r.unlinkTombstone k').readRecord k = r.readRecord k := rfl

end ReadBack

/-- The record of a target is one of the records. -/
theorem mem_of_readRecord {r : SessionRegistry} {k : TargetKey} {session : TransportSession}
    (h : r.readRecord k = some session) : session ∈ r.records ∧ session.targetKey = k :=
  ⟨List.mem_of_find?_eq_some h, by simpa using List.find?_some h⟩

end SessionRegistry

end Kdive

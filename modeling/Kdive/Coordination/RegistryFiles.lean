import Kdive.Coordination.World
import Kdive.Lib.Association

/-!
# The registry directory a process finds

A crashed server leaves a directory of files.  An `owner-*.json` file holds a
record or something that does not read as one.  A `tomb-*.json` file holds a
tombstone, something malformed, which is skipped, or bytes that are not text,
which raise.

*Names.*  The name of a target's file is a hash of its key, taken to be free of
collisions.  A file may stand under any other name as well, whatever it holds.
-/

namespace Kdive

open Association

/-- The name of a file, without its prefix. -/
inductive FileName where
  | own (targetKey : TargetKey)
  | other (name : String)
deriving DecidableEq, Repr

/-- What an `owner-*.json` file holds. -/
inductive OwnerFile where
  | record (session : TransportSession)
  | unreadable
deriving DecidableEq, Repr

/-- What a `tomb-*.json` file holds. -/
inductive TombstoneFile where
  | tombstone (tombstone : RecoveryTombstone)
  | malformed
  | undecodable
deriving DecidableEq, Repr

/-- Read an ownership record. -/
def OwnerFile.load : OwnerFile → Except Raised TransportSession
  | .record session => .ok session
  | .unreadable => .error (.external .exception)

theorem OwnerFile.load_eq_ok {file : OwnerFile} {session : TransportSession} :
    file.load = .ok session ↔ file = .record session := by
  cases file <;> simp [OwnerFile.load]

/-- `_load_tombstone`: a malformed marker is skipped. -/
def TombstoneFile.load : TombstoneFile → Except Raised (Option RecoveryTombstone)
  | .tombstone t => .ok (some t)
  | .malformed => .ok none
  | .undecodable => .error (.external .exception)

/-- The file of a record under its own name. -/
def ownEntry (record : TransportSession) : FileName × OwnerFile :=
  (.own record.targetKey, .record record)

/-- The file of a tombstone under its own name. -/
def tombEntry (t : RecoveryTombstone) : FileName × TombstoneFile :=
  (.own t.targetKey, .tombstone t)

/-- The files of the registry directory. -/
@[ext] structure RegistryDir where
  owners : List (FileName × OwnerFile)
  tombs : List (FileName × TombstoneFile)
  /-- No two files share a name. -/
  distinct : (owners.map Prod.fst).Nodup

namespace RegistryDir

/-- Unlink the file at the path of a target's record. -/
def unlinkOwner (d : RegistryDir) (targetKey : TargetKey) : RegistryDir where
  owners := d.owners.filter fun file => file.1 ≠ .own targetKey
  tombs := d.tombs
  distinct := d.distinct.sublist (List.filter_sublist.map Prod.fst)

/-- Replace the file at the path of a target's tombstone. -/
def writeTombstone (d : RegistryDir) (t : RecoveryTombstone) : RegistryDir :=
  { d with
    tombs := (d.tombs.filter fun file => file.1 ≠ .own t.targetKey) ++
      [(.own t.targetKey, .tombstone t)] }

/-- `list_records`. -/
def listRecords (d : RegistryDir) : Except Raised (List TransportSession) :=
  d.owners.mapM fun file => file.2.load

/-- `delete_record`: unlink the file of a target if it holds the expected session. -/
def deleteRecord (d : RegistryDir) (targetKey : TargetKey) (expectedSessionId : Nat) :
    Except Raised Unit × RegistryDir :=
  match d.owners.lookup (.own targetKey) with
  | none => (.ok (), d)
  | some file =>
      match file.load with
      | .error e => (.error e, d)
      | .ok existing =>
          (.ok (), if existing.sessionId = expectedSessionId then d.unlinkOwner targetKey else d)

/-! ## Reading back -/

variable (d : RegistryDir) (k : TargetKey) (t : RecoveryTombstone)

@[simp] theorem unlinkOwner_tombs : (d.unlinkOwner k).tombs = d.tombs := rfl

@[simp] theorem unlinkOwner_owners :
    (d.unlinkOwner k).owners = d.owners.filter fun file => file.1 ≠ .own k := rfl

@[simp] theorem writeTombstone_owners : (d.writeTombstone t).owners = d.owners := rfl

/-- Writing a tombstone twice is writing it once. -/
@[simp] theorem writeTombstone_twice :
    (d.writeTombstone t).writeTombstone t = d.writeTombstone t := by
  ext1
  · rfl
  · simp [writeTombstone, List.filter_append, List.filter_filter]

/-- A written tombstone stands in the directory. -/
theorem mem_writeTombstone_self : (.own t.targetKey, .tombstone t) ∈ (d.writeTombstone t).tombs :=
  List.mem_append_right _ List.mem_cons_self

/-- A write leaves the files of other names. -/
theorem mem_writeTombstone_of_ne {file : FileName × TombstoneFile} (hm : file ∈ d.tombs)
    (hne : file.1 ≠ .own t.targetKey) : file ∈ (d.writeTombstone t).tombs :=
  List.mem_append_left _ (List.mem_filter.mpr ⟨hm, by simpa using hne⟩)

variable {d k}

/-- A delete that finds the expected session unlinks the file. -/
theorem deleteRecord_own {session : TransportSession}
    (hm : (.own k, .record session) ∈ d.owners) :
    d.deleteRecord k session.sessionId = (.ok (), d.unlinkOwner k) := by
  rw [deleteRecord, lookup_of_mem d.distinct hm]
  simp [OwnerFile.load]

/-- A delete that returns leaves the files of other names and of other sessions. -/
theorem mem_deleteRecord {sid : Nat} {name : FileName} {file : OwnerFile}
    (hm : (name, file) ∈ d.owners)
    (hother : name = .own k → ∀ session, file = .record session → session.sessionId ≠ sid) :
    (name, file) ∈ (d.deleteRecord k sid).2.owners := by
  have hkept : name ≠ .own k → (name, file) ∈ (d.unlinkOwner k).owners := fun hne =>
    List.mem_filter.mpr ⟨hm, by simpa using hne⟩
  unfold deleteRecord
  split
  · exact hm
  · rename_i found hfound
    split
    · exact hm
    · rename_i existing hexisting
      split
      · rename_i hsid
        refine hkept fun hname => ?_
        subst hname
        obtain rfl := eq_of_mem d.distinct (mem_of_lookup hfound) hm
        exact hother rfl existing (OwnerFile.load_eq_ok.mp hexisting) hsid
      · exact hm

/-- A delete leaves the tombstones. -/
@[simp] theorem deleteRecord_tombs {sid : Nat} : (d.deleteRecord k sid).2.tombs = d.tombs := by
  unfold deleteRecord
  split
  · rfl
  · split
    · rfl
    · split <;> rfl

/-- A delete leaves the owner files, or unlinks one. -/
theorem deleteRecord_owners {sid : Nat} :
    (d.deleteRecord k sid).2 = d ∨ (d.deleteRecord k sid).2 = d.unlinkOwner k := by
  unfold deleteRecord
  split
  · exact .inl rfl
  · split
    · exact .inl rfl
    · split
      · exact .inr rfl
      · exact .inl rfl

/-- The records of a directory whose files all read. -/
theorem listRecords_eq_ok {records : List TransportSession} :
    d.listRecords = .ok records ↔ d.owners.map Prod.snd = records.map OwnerFile.record := by
  unfold listRecords
  generalize d.owners = files
  induction files generalizing records with
  | nil =>
      rw [List.mapM_nil, Checked.pure_eq_ok, List.map_nil]
      cases records <;> simp
  | cons file files ih =>
      rw [List.mapM_cons]
      simp only [Checked.bind_eq_ok, Checked.pure_eq_ok, List.map_cons, OwnerFile.load_eq_ok, ih]
      cases records with
      | nil => simp
      | cons r records => simp

end RegistryDir

/-! ## The directory a server leaves -/

namespace SessionRegistry

/-- A target has one record and one tombstone. -/
def Distinct (r : SessionRegistry) : Prop :=
  (r.records.map TransportSession.targetKey).Nodup ∧
    (r.tombstones.map RecoveryTombstone.targetKey).Nodup

instance (r : SessionRegistry) : Decidable r.Distinct := inferInstanceAs (Decidable (_ ∧ _))

variable {r : SessionRegistry}

/-- Replacing the entry of a key keeps keys distinct. -/
theorem nodup_replace {α : Type} (key : α → TargetKey) {l : List α} (a : α)
    (h : (l.map key).Nodup) : (((l.filter fun b => key b ≠ key a) ++ [a]).map key).Nodup := by
  rw [List.map_append, List.nodup_append]
  refine ⟨h.sublist (List.filter_sublist.map key), by simp, ?_⟩
  intro k hk k' hk'
  obtain ⟨b, hb, rfl⟩ := List.mem_map.mp hk
  obtain rfl := List.mem_singleton.mp hk'
  simpa using (List.mem_filter.mp hb).2

theorem Distinct.writeRecord (h : r.Distinct) (session : TransportSession) :
    (r.writeRecord session).Distinct := ⟨nodup_replace _ session h.1, h.2⟩

theorem Distinct.writeTombstone (h : r.Distinct) (t : RecoveryTombstone) :
    (r.writeTombstone t).Distinct := ⟨h.1, nodup_replace _ t h.2⟩

theorem Distinct.unlinkRecord (h : r.Distinct) (k : TargetKey) : (r.unlinkRecord k).Distinct :=
  ⟨h.1.sublist (List.filter_sublist.map _), h.2⟩

theorem Distinct.unlinkTombstone (h : r.Distinct) (k : TargetKey) :
    (r.unlinkTombstone k).Distinct := ⟨h.1, h.2.sublist (List.filter_sublist.map _)⟩

/-- The record of a target is found. -/
theorem Distinct.readRecord (h : r.Distinct) {s : TransportSession} (hs : s ∈ r.records) :
    r.readRecord s.targetKey = some s := by
  cases hfound : r.readRecord s.targetKey with
  | none => simpa using List.find?_eq_none.mp hfound s hs
  | some found =>
      have hmem := mem_of_readRecord hfound
      rw [List.inj_on_of_nodup_map h.1 hmem.1 hs hmem.2]

end SessionRegistry

namespace RegistryDir

/-- The files of a registry. -/
def ofRegistry (r : SessionRegistry) (h : r.Distinct) : RegistryDir where
  owners := r.records.map ownEntry
  tombs := r.tombstones.map tombEntry
  distinct := by
    have hnames : (r.records.map ownEntry).map Prod.fst =
        (r.records.map TransportSession.targetKey).map FileName.own := by
      rw [List.map_map, List.map_map]
      rfl
    rw [hnames]
    exact h.1.map fun _ _ => FileName.own.inj

/-- What a server reads of a directory. -/
def toRegistry (d : RegistryDir) : SessionRegistry where
  records := d.owners.filterMap fun file => file.2.load.toOption
  tombstones := d.tombs.filterMap fun file => file.2.load.toOption.join

variable {r : SessionRegistry} (h : r.Distinct)

@[simp] theorem toRegistry_ofRegistry : (ofRegistry r h).toRegistry = r := by
  unfold toRegistry ofRegistry
  simp only [List.filterMap_map]
  have hrecords : ((fun file : FileName × OwnerFile => file.2.load.toOption) ∘ ownEntry) =
      some := rfl
  have htombs : ((fun file : FileName × TombstoneFile => file.2.load.toOption.join) ∘
      tombEntry) = some := rfl
  rw [hrecords, htombs, List.filterMap_some, List.filterMap_some]

theorem ofRegistry_writeTombstone (t : RecoveryTombstone) :
    (ofRegistry r h).writeTombstone t = ofRegistry (r.writeTombstone t) (h.writeTombstone t) := by
  ext1
  · rfl
  · simp only [writeTombstone, ofRegistry, SessionRegistry.writeTombstone, List.map_append,
      List.map_cons, List.map_nil, List.filter_map]
    congr 2
    refine List.filter_congr fun other _ => ?_
    simp [tombEntry]

theorem ofRegistry_unlinkOwner (k : TargetKey) :
    (ofRegistry r h).unlinkOwner k = ofRegistry (r.unlinkRecord k) (h.unlinkRecord k) := by
  ext1
  · simp only [unlinkOwner, ofRegistry, SessionRegistry.unlinkRecord, List.filter_map]
    congr 1
    refine List.filter_congr fun other _ => ?_
    simp [ownEntry]
  · rfl

end RegistryDir

end Kdive

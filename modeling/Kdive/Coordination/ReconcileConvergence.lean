import Kdive.Coordination.Reconcile
import Mathlib.Data.Set.List

/-!
# Reconcile converges

A run on a directory whose files all read, each record under the name of its own
target, and in which nothing raises, ends with no record left and every parked
kernel under a tombstone.  Cut anywhere and started again it ends in the same
directory, because a run is a fold over the records and writing a tombstone twice
is writing it once.

Any other directory it does not settle.  A file that does not read or a callback
that raises ends the run.  A record under a foreign name is taken down but its
file stays: the delete looks for it under its own name.  The last files a run
removes must be under their own names, and so, going backwards, must all others.
-/

namespace Kdive

open Checked Program

/-! ## The directory along a run -/

/-- The directory after a list of records was taken down. -/
def settled (d : RegistryDir) (records : List TransportSession) : RegistryDir :=
  records.foldl reapedDir d

@[simp] theorem settled_nil (d : RegistryDir) : settled d [] = d := rfl

@[simp] theorem settled_cons (d : RegistryDir) (record : TransportSession)
    (records : List TransportSession) :
    settled d (record :: records) = settled (reapedDir d record) records := rfl

theorem settled_append (d : RegistryDir) (records records' : List TransportSession) :
    settled d (records ++ records') = settled (settled d records) records' :=
  List.foldl_append

/-- Taking down a record whose tombstone was written before. -/
theorem reapedDir_tombed (d : RegistryDir) (record : TransportSession) :
    reapedDir (tombed d record) record = reapedDir d record := by
  rw [reapedDir, tombed_twice, reapedDir]

section Own

variable {d : RegistryDir} {record : TransportSession} {records : List TransportSession}

theorem reapedDir_own (hm : ownEntry record ∈ d.owners) :
    reapedDir d record = (tombed d record).unlinkOwner record.targetKey := by
  have hm' : ownEntry record ∈ (tombed d record).owners := by rwa [tombed_owners]
  rw [reapedDir, RegistryDir.deleteRecord_own hm']

/-- The keys of records under their own names are distinct. -/
theorem key_ne_of_own (hown : d.owners = (record :: records).map ownEntry) :
    ∀ other ∈ records, other.targetKey ≠ record.targetKey := by
  intro other hother hkey
  have hdistinct := d.distinct
  rw [hown, List.map_map, List.map_cons, List.nodup_cons] at hdistinct
  refine hdistinct.1 (List.mem_map.mpr ⟨other, hother, ?_⟩)
  simp [ownEntry, hkey]

/-- Taking down the first record leaves the files of the others. -/
theorem reapedDir_owners (hown : d.owners = (record :: records).map ownEntry) :
    (reapedDir d record).owners = records.map ownEntry := by
  rw [reapedDir_own (by simp [hown]), RegistryDir.unlinkOwner_owners, tombed_owners, hown,
    List.map_cons, List.filter_cons_of_neg (by simp [ownEntry]), List.filter_eq_self]
  intro file hfile
  obtain ⟨other, hother, rfl⟩ := List.mem_map.mp hfile
  simpa [ownEntry] using key_ne_of_own hown other hother

end Own

/-! ## The loops -/

section Loops

variable {env : ReconcileEnv} {s s' : ReconcileState} {records : List TransportSession}
  {report report' : OrphanReapReport} {files : List (FileName × TombstoneFile)}

/-- Records that were all taken down raised nothing. -/
theorem reapOrphans_ok
    (h : (reapOrphans env records report).run ReconcileState.exec s = (.ok report', s')) :
    (∀ record ∈ records, QuietOn env record) ∧ s'.dir = settled s.dir records := by
  induction records generalizing s report with
  | nil =>
      cases h
      exact ⟨by simp, rfl⟩
  | cons record records ih =>
      rw [reapOrphans, Prog.run_bind] at h
      split at h
      · rename_i reap s₁ hreap
        obtain ⟨hquiet, hdir, _⟩ := reapOrphan_ok hreap
        obtain ⟨hrest, hend⟩ := ih h
        exact ⟨List.forall_mem_cons.mpr ⟨hquiet, hrest⟩, by rw [hend, hdir, settled_cons]⟩
      · cases h

/-- Where the loop may be cut: between two records, or after the tombstone of one. -/
theorem reapOrphans_reaches
    (h : (reapOrphans env records report).Reaches ReconcileState.exec s s') :
    ∃ done rest, records = done ++ rest ∧
      (s'.dir = settled s.dir done ∨
        ∃ record rest', rest = record :: rest' ∧
          s'.dir = tombed (settled s.dir done) record) := by
  induction records generalizing s report with
  | nil =>
      obtain rfl : s' = s := h
      exact ⟨[], [], rfl, .inl rfl⟩
  | cons record records ih =>
      rw [reapOrphans, Prog.reaches_bind] at h
      rcases h with h | ⟨reap, s₁, hreap, h⟩
      · rcases reapOrphan_reaches h with hsame | htombed | hreaped
        · exact ⟨[], _, rfl, .inl hsame⟩
        · exact ⟨[], _, rfl, .inr ⟨record, records, rfl, htombed⟩⟩
        · exact ⟨[record], records, rfl, .inl hreaped⟩
      · obtain ⟨done, rest, rfl, hcut⟩ := ih h
        have hdir : s₁.dir = reapedDir s.dir record := (reapOrphan_ok hreap).2.1
        rw [hdir, ← settled_cons] at hcut
        exact ⟨record :: done, rest, rfl, hcut⟩

/-- Records under their own names are all taken down when nothing raises. -/
theorem reapOrphans_of_quiet (hown : s.dir.owners = records.map ownEntry)
    (hquiet : ∀ record ∈ records, QuietOn env record) :
    ∃ report' admission, (reapOrphans env records report).run ReconcileState.exec s =
      (.ok report', ⟨settled s.dir records, admission⟩) := by
  induction records generalizing s report with
  | nil => exact ⟨report, s.admission, rfl⟩
  | cons record records ih =>
      have hread : ((tombed s.dir record).deleteRecord record.targetKey record.sessionId).1 =
          .ok () := by
        have hm : ownEntry record ∈ (tombed s.dir record).owners := by simp [hown]
        rw [RegistryDir.deleteRecord_own hm]
      obtain ⟨reap, admission, hreap⟩ :=
        reapOrphan_of_quiet (hquiet record List.mem_cons_self) hread
      rw [reapOrphans, Prog.run_bind, hreap]
      exact ih (s := ⟨reapedDir s.dir record, admission⟩) (reapedDir_owners hown)
        (List.forall_mem_cons.mp hquiet).2

theorem reassertTombstone_run (file : TombstoneFile) (s : ReconcileState) :
    (reassertTombstone file).run ReconcileState.exec s =
      match file with
      | .tombstone t =>
          (.ok (), ⟨s.dir, s.admission.markRecoveryRequired t.targetKey t.generation⟩)
      | .malformed => (.ok (), s)
      | .undecodable => (.error (.external .exception), s) := by
  cases file <;> rfl

theorem reassertTombstone_dir (file : TombstoneFile) (s : ReconcileState) :
    ((reassertTombstone file).run ReconcileState.exec s).2.dir = s.dir := by
  rw [reassertTombstone_run]
  cases file <;> rfl

theorem reassertTombstone_reaches {file : TombstoneFile}
    (h : (reassertTombstone file).Reaches ReconcileState.exec s s') : s'.dir = s.dir := by
  cases file with
  | tombstone t =>
      rcases h with rfl | rfl
      · rfl
      · rfl
  | malformed | undecodable => exact congrArg ReconcileState.dir h

/-- Tombstones that were all re-asserted were all decoded. -/
theorem reassert_ok
    (h : (Prog.forEach files fun file => reassertTombstone file.2).run ReconcileState.exec s =
      (.ok (), s')) : (∀ file ∈ files, file.2 ≠ .undecodable) ∧ s'.dir = s.dir := by
  induction files generalizing s with
  | nil =>
      cases h
      exact ⟨by simp, rfl⟩
  | cons file files ih =>
      rw [Prog.forEach, Prog.run_bind] at h
      split at h
      · rename_i u s₁ hfile
        obtain ⟨hrest, hend⟩ := ih h
        have hdir := reassertTombstone_dir file.2 s
        rw [hfile] at hdir
        refine ⟨List.forall_mem_cons.mpr ⟨fun hundecodable => ?_, hrest⟩, hend.trans hdir⟩
        rw [reassertTombstone_run, hundecodable] at hfile
        cases hfile
      · cases h

theorem reassert_reaches
    (h : (Prog.forEach files fun file => reassertTombstone file.2).Reaches
      ReconcileState.exec s s') : s'.dir = s.dir := by
  induction files generalizing s with
  | nil => exact congrArg ReconcileState.dir h
  | cons file files ih =>
      rw [Prog.forEach, Prog.reaches_bind] at h
      rcases h with h | ⟨u, s₁, hfile, h⟩
      · exact reassertTombstone_reaches h
      · have hdir := reassertTombstone_dir file.2 s
        rw [hfile] at hdir
        exact (ih h).trans hdir

end Loops

/-! ## Marks -/

/-- The admission service holds a mark for a tombstone that is not older. -/
def Asserted (a : AdmissionService) (t : RecoveryTombstone) : Prop :=
  a.MarkedFrom t.targetKey t.generation

section Marks

variable {a : AdmissionService} {t : RecoveryTombstone} {k : TargetKey} {g : Int}

theorem asserted_mark_self :
    Asserted (a.markRecoveryRequired t.targetKey t.generation) t :=
  a.markedFrom_self t.targetKey t.generation

/-- A mark never undoes an assertion. -/
theorem Asserted.mark (h : Asserted a t) : Asserted (a.markRecoveryRequired k g) t :=
  AdmissionService.MarkedFrom.mark h

/-- Nor does the notification of the server. -/
theorem Asserted.notify (h : Asserted a t) {record : TransportSession} {killed : Bool} :
    Asserted (a.onOrphanReaped record killed) t := by
  unfold Asserted AdmissionService.MarkedFrom
  rwa [AdmissionService.onOrphanReaped_recoveryRequired]

/-- Asserting a tombstone again changes nothing. -/
theorem Asserted.mark_eq (h : Asserted a t) :
    a.markRecoveryRequired t.targetKey t.generation = a := by
  unfold AdmissionService.markRecoveryRequired
  split
  · rfl
  · rename_i hnot
    obtain ⟨existing, hexisting, hle⟩ := h
    have heq : existing = t.generation :=
      le_antisymm (not_lt.mp fun hlt => hnot ⟨existing, hexisting, hlt⟩) hle
    subst heq
    have hupdate : Function.update a.recoveryRequired t.targetKey (some t.generation) =
        a.recoveryRequired := by
      rw [Function.update_eq_self_iff]
      exact hexisting.symm
    rw [hupdate]

end Marks

/-- Every tombstone in the directory is asserted. -/
def AllAsserted (s : ReconcileState) : Prop :=
  ∀ name t, (name, .tombstone t) ∈ s.dir.tombs → Asserted s.admission t

section Assertions

variable {env : ReconcileEnv} {s s' : ReconcileState} {records : List TransportSession}
  {report report' : OrphanReapReport} {files : List (FileName × TombstoneFile)}

theorem Asserted.notified {a : AdmissionService} {t : RecoveryTombstone}
    {record : TransportSession} {killed : Bool} (h : Asserted a t) :
    Asserted (notified a record killed) t := by
  refine Asserted.notify ?_
  unfold marked
  split
  · exact h.mark
  · exact h

/-- Taking down a record asserts the tombstone it writes. -/
theorem AllAsserted.notified (h : AllAsserted s) (record : TransportSession) (killed : Bool) :
    AllAsserted ⟨reapedDir s.dir record, notified s.admission record killed⟩ := by
  intro name t hm
  rw [reapedDir, RegistryDir.deleteRecord_tombs] at hm
  by_cases hparked : Parked record
  · rw [tombed, if_pos hparked] at hm
    rcases List.mem_append.mp hm with hold | hnew
    · exact (h name t (List.mem_filter.mp hold).1).notified
    · obtain ⟨rfl, heq⟩ := Prod.mk.inj (List.mem_singleton.mp hnew)
      obtain rfl := TombstoneFile.tombstone.inj heq
      refine Asserted.notify ?_
      rw [marked, if_pos hparked]
      exact asserted_mark_self (t := reconciledTombstone record)
  · rw [tombed, if_neg hparked] at hm
    exact (h name t hm).notified

theorem reapOrphans_asserted (hs : AllAsserted s)
    (h : (reapOrphans env records report).run ReconcileState.exec s = (.ok report', s')) :
    AllAsserted s' ∧ ∀ t, Asserted s.admission t → Asserted s'.admission t := by
  induction records generalizing s report with
  | nil =>
      cases h
      exact ⟨hs, fun _ => id⟩
  | cons record records ih =>
      rw [reapOrphans, Prog.run_bind] at h
      split at h
      · rename_i reap s₁ hreap
        obtain ⟨_, hdir, killed, hadmission⟩ := reapOrphan_ok hreap
        have hs₁ : s₁ = ⟨reapedDir s.dir record, notified s.admission record killed⟩ := by
          rw [← hdir, ← hadmission]
        subst hs₁
        obtain ⟨hend, hkept⟩ := ih (hs.notified record killed) h
        exact ⟨hend, fun t ht => hkept t ht.notified⟩
      · cases h

/-- Decoded tombstones are re-asserted. -/
theorem reassert_of_decoded (hdecoded : ∀ file ∈ files, file.2 ≠ .undecodable) :
    ∃ admission, (Prog.forEach files fun file => reassertTombstone file.2).run
        ReconcileState.exec s = (.ok (), ⟨s.dir, admission⟩) ∧
      (∀ t, Asserted s.admission t → Asserted admission t) ∧
      ∀ name t, (name, .tombstone t) ∈ files → Asserted admission t := by
  induction files generalizing s with
  | nil => exact ⟨s.admission, rfl, fun _ => id, by simp⟩
  | cons file files ih =>
      obtain ⟨hfile, hrest⟩ := List.forall_mem_cons.mp hdecoded
      rw [Prog.forEach]
      simp only [Prog.run_bind, reassertTombstone_run]
      obtain ⟨name, content⟩ := file
      cases content with
      | tombstone t =>
          obtain ⟨admission, hrun, hkept, hasserted⟩ :=
            ih (s := ⟨s.dir, s.admission.markRecoveryRequired t.targetKey t.generation⟩) hrest
          refine ⟨admission, hrun, fun t' ht' => hkept t' ht'.mark, fun name' t' hm => ?_⟩
          rcases List.mem_cons.mp hm with heq | hm
          · obtain rfl := TombstoneFile.tombstone.inj (Prod.mk.inj heq).2
            exact hkept _ asserted_mark_self
          · exact hasserted name' t' hm
      | malformed =>
          obtain ⟨admission, hrun, hkept, hasserted⟩ := ih (s := s) hrest
          refine ⟨admission, hrun, hkept, fun name' t' hm => ?_⟩
          rcases List.mem_cons.mp hm with heq | hm
          · cases (Prod.mk.inj heq).2
          · exact hasserted name' t' hm
      | undecodable => exact absurd rfl hfile

/-- Re-asserting what is asserted changes nothing. -/
theorem reassert_again (hdecoded : ∀ file ∈ files, file.2 ≠ .undecodable)
    (hasserted : ∀ name t, (name, .tombstone t) ∈ files → Asserted s.admission t) :
    (Prog.forEach files fun file => reassertTombstone file.2).run ReconcileState.exec s =
      (.ok (), s) := by
  induction files with
  | nil => rfl
  | cons file files ih =>
      obtain ⟨hfile, hrest⟩ := List.forall_mem_cons.mp hdecoded
      have hrest := ih hrest fun name t hm => hasserted name t (List.mem_cons_of_mem _ hm)
      rw [Prog.forEach]
      simp only [Prog.run_bind, reassertTombstone_run]
      obtain ⟨name, content⟩ := file
      cases content with
      | tombstone t =>
          have hsame := (hasserted name t List.mem_cons_self).mark_eq
          simp only [hsame]
          exact hrest
      | malformed => exact hrest
      | undecodable => exact absurd rfl hfile

end Assertions

/-! ## A whole run -/

/-- A directory whose files all read, each record under the name of its own target,
in which nothing raises. -/
structure Orderly (env : ReconcileEnv) (d : RegistryDir) : Prop where
  decoded : ∀ file ∈ d.tombs, file.2 ≠ .undecodable
  named : ∀ file ∈ d.owners, ∃ record, file = ownEntry record
  quiet : ∀ record, ownEntry record ∈ d.owners → QuietOn env record

theorem Orderly.records {env : ReconcileEnv} {d : RegistryDir} (h : Orderly env d) :
    ∃ records : List TransportSession, d.owners = records.map ownEntry := by
  have hmem : d.owners ∈ Set.range (List.map ownEntry) := by
    rw [Set.range_list_map]
    intro file hfile
    obtain ⟨record, rfl⟩ := h.named file hfile
    exact ⟨record, rfl⟩
  obtain ⟨records, hrecords⟩ := hmem
  exact ⟨records, hrecords.symm⟩

theorem listRecords_of_own {d : RegistryDir} {records : List TransportSession}
    (hown : d.owners = records.map ownEntry) : d.listRecords = .ok records := by
  rw [RegistryDir.listRecords_eq_ok, hown, List.map_map]
  rfl

section Run

variable {env : ReconcileEnv} {s s' : ReconcileState} {records : List TransportSession}
  {report : OrphanReapReport}

/-- A run decoded all tombstones, read all records and took them down. -/
theorem reconcile_ok
    (h : (reconcile env).run ReconcileState.exec s = (.ok report, s')) :
    ∃ records s₁, (∀ file ∈ s.dir.tombs, file.2 ≠ .undecodable) ∧
      s.dir.listRecords = .ok records ∧ s₁.dir = s.dir ∧
      (Prog.forEach s.dir.tombs fun file => reassertTombstone file.2).run
        ReconcileState.exec s = (.ok (), s₁) ∧
      (reapOrphans env records ⟨[], []⟩).run ReconcileState.exec s₁ = (.ok report, s') := by
  unfold reconcile at h
  rw [Prog.run_bind, Prog.run_perform] at h
  simp only [ReconcileState.exec] at h
  rw [Prog.run_bind] at h
  split at h
  · rename_i u s₁ hreassert
    obtain ⟨hdecoded, hdir⟩ := reassert_ok hreassert
    rw [Prog.run_bind, Prog.run_perform] at h
    simp only [ReconcileState.exec, hdir] at h
    cases hrecords : s.dir.listRecords with
    | error e =>
        rw [hrecords] at h
        cases h
    | ok records =>
        rw [hrecords] at h
        exact ⟨records, s₁, hdecoded, rfl, hdir, hreassert, h⟩
  · cases h

theorem reconcile_reaches
    (h : (reconcile env).Reaches ReconcileState.exec s s')
    (hrecords : s.dir.listRecords = .ok records) :
    s'.dir = s.dir ∨ ∃ s₁, s₁.dir = s.dir ∧
      (reapOrphans env records ⟨[], []⟩).Reaches ReconcileState.exec s₁ s' := by
  unfold reconcile at h
  simp only [Prog.reaches_bind, Prog.reaches_perform, Prog.run_perform, ReconcileState.exec] at h
  rcases h with (rfl | rfl) | ⟨files, _, heq, h⟩
  · exact .inl rfl
  · exact .inl rfl
  obtain ⟨hfiles, rfl⟩ := Prod.mk.inj heq
  rcases h with h | ⟨u, s₁, hreassert, h⟩
  · exact .inl (reassert_reaches h)
  have hdir := (reassert_ok hreassert).2
  rcases h with (rfl | rfl) | ⟨records', s₂, heq, h⟩
  · exact .inl hdir
  · exact .inl hdir
  · obtain ⟨hlist, rfl⟩ := Prod.mk.inj heq
    rw [hdir, hrecords] at hlist
    obtain rfl := Except.ok.inj hlist
    exact .inr ⟨s₁, hdir, h⟩

/-- Where a run may be cut. -/
theorem reconcile_cut (h : (reconcile env).Reaches ReconcileState.exec s s')
    (hrecords : s.dir.listRecords = .ok records) :
    ∃ done rest, records = done ++ rest ∧
      (s'.dir = settled s.dir done ∨
        ∃ record rest', rest = record :: rest' ∧
          s'.dir = tombed (settled s.dir done) record) := by
  rcases reconcile_reaches h hrecords with hsame | ⟨s₁, hdir, hcut⟩
  · exact ⟨[], records, rfl, .inl hsame⟩
  · simpa only [hdir] using reapOrphans_reaches hcut

/-- A run on an orderly directory takes down every record. -/
theorem reconcile_of_orderly (hown : s.dir.owners = records.map ownEntry)
    (hd : Orderly env s.dir) :
    ∃ report admission, (reconcile env).run ReconcileState.exec s =
        (.ok report, ⟨settled s.dir records, admission⟩) ∧
      (∀ name t, (name, .tombstone t) ∈ s.dir.tombs → Asserted admission t) ∧
      ∀ name t, (name, .tombstone t) ∈ (settled s.dir records).tombs → Asserted admission t := by
  obtain ⟨admission₁, hreassert, _, hasserted⟩ := reassert_of_decoded (s := s) hd.decoded
  have hquiet : ∀ record ∈ records, QuietOn env record := fun record hm =>
    hd.quiet record (hown ▸ List.mem_map_of_mem hm)
  have hreaps : ∃ report admission, (reapOrphans env records ⟨[], []⟩).run ReconcileState.exec
      ⟨s.dir, admission₁⟩ = (.ok report, ⟨settled s.dir records, admission⟩) :=
    reapOrphans_of_quiet hown hquiet
  obtain ⟨report, admission, hreap⟩ := hreaps
  obtain ⟨hall, hkept⟩ := reapOrphans_asserted (s := ⟨s.dir, admission₁⟩) hasserted hreap
  refine ⟨report, admission, ?_, fun name t hm => hkept t (hasserted name t hm), hall⟩
  unfold reconcile
  simp only [Prog.run_bind, Prog.run_perform, ReconcileState.exec, hreassert,
    listRecords_of_own hown, hreap]

end Run

/-! ## Tombstones along a run -/

section Tombstones

variable {d : RegistryDir} {record : TransportSession} {records : List TransportSession}
  {file : FileName × TombstoneFile}

theorem decoded_tombed (hd : ∀ file ∈ d.tombs, file.2 ≠ .undecodable) :
    ∀ file ∈ (tombed d record).tombs, file.2 ≠ .undecodable := by
  unfold tombed
  split
  · intro file hm
    rcases List.mem_append.mp hm with hold | hnew
    · exact hd file (List.mem_filter.mp hold).1
    · obtain rfl := List.mem_singleton.mp hnew
      simp
  · exact hd

theorem reapedDir_tombs : (reapedDir d record).tombs = (tombed d record).tombs :=
  RegistryDir.deleteRecord_tombs

theorem decoded_settled (hd : ∀ file ∈ d.tombs, file.2 ≠ .undecodable) :
    ∀ file ∈ (settled d records).tombs, file.2 ≠ .undecodable := by
  induction records generalizing d with
  | nil => exact hd
  | cons record records ih =>
      rw [settled_cons]
      refine ih ?_
      rw [reapedDir_tombs]
      exact decoded_tombed hd

/-- A tombstone is replaced only on behalf of its own target. -/
theorem mem_tombed (hm : file ∈ d.tombs) (hne : file.1 ≠ .own record.targetKey) :
    file ∈ (tombed d record).tombs := by
  unfold tombed
  split
  · exact RegistryDir.mem_writeTombstone_of_ne d (reconciledTombstone record) hm hne
  · exact hm

theorem mem_settled (hm : file ∈ d.tombs)
    (hne : ∀ record ∈ records, file.1 ≠ .own record.targetKey) :
    file ∈ (settled d records).tombs := by
  induction records generalizing d with
  | nil => exact hm
  | cons record records ih =>
      obtain ⟨hrecord, hrest⟩ := List.forall_mem_cons.mp hne
      rw [settled_cons]
      refine ih ?_ hrest
      rw [reapedDir_tombs]
      exact mem_tombed hm hrecord

/-- The tombstone of a parked record. -/
def parkedEntry (record : TransportSession) : FileName × TombstoneFile :=
  (.own record.targetKey, .tombstone (reconciledTombstone record))

theorem parkedEntry_tombed (hparked : Parked record) :
    parkedEntry record ∈ (tombed d record).tombs := by
  rw [tombed, if_pos hparked]
  exact RegistryDir.mem_writeTombstone_self d (reconciledTombstone record)

end Tombstones

/-! ## Orderly directories -/

section Cuts

variable {env env' : ReconcileEnv} {d : RegistryDir} {record : TransportSession}
  {done rest : List TransportSession}

/-- The files of the records that were not taken down yet. -/
theorem settled_owners (hown : d.owners = (done ++ rest).map ownEntry) :
    (settled d done).owners = rest.map ownEntry := by
  induction done generalizing d with
  | nil => exact hown
  | cons record done ih => exact ih (reapedDir_owners hown)

/-- A parked record that was taken down left its tombstone. -/
theorem parkedEntry_settled (hown : d.owners = (done ++ rest).map ownEntry)
    (hm : record ∈ done) (hparked : Parked record) :
    parkedEntry record ∈ (settled d done).tombs := by
  induction done generalizing d with
  | nil => cases hm
  | cons first done ih =>
      rw [settled_cons]
      rcases List.mem_cons.mp hm with rfl | hm
      · refine mem_settled ?_ fun other hother hname => ?_
        · rw [reapedDir_tombs]
          exact parkedEntry_tombed hparked
        · exact key_ne_of_own hown other (List.mem_append_left _ hother)
            (FileName.own.inj hname).symm
      · exact ih (reapedDir_owners hown) hm

/-- Where a run on records under their own names may be cut, a parked record stands
or its tombstone does. -/
theorem parked_kept {D : RegistryDir} (hown : d.owners = (done ++ rest).map ownEntry)
    (hD : D.owners = (settled d done).owners)
    (htombs : ∀ record ∈ done, parkedEntry record ∈ (settled d done).tombs →
      parkedEntry record ∈ D.tombs)
    (hm : ownEntry record ∈ d.owners) (hparked : Parked record) :
    ownEntry record ∈ D.owners ∨ parkedEntry record ∈ D.tombs := by
  rw [hown, List.map_append, List.mem_append] at hm
  cases hm with
  | inl hdone =>
      obtain ⟨other, hother, heq⟩ := List.mem_map.mp hdone
      obtain rfl := OwnerFile.record.inj (Prod.mk.inj heq).2
      exact .inr (htombs other hother (parkedEntry_settled hown hother hparked))
  | inr hrest =>
      rw [hD, settled_owners hown]
      exact .inl hrest

/-- The directory at a cut is orderly, and a run from there ends like the first one. -/
theorem Orderly.settled (hd : Orderly env d) (hown : d.owners = (done ++ rest).map ownEntry) :
    Orderly env (settled d done) where
  decoded := decoded_settled hd.decoded
  named := by
    rw [settled_owners hown]
    intro file hm
    obtain ⟨record, _, rfl⟩ := List.mem_map.mp hm
    exact ⟨record, rfl⟩
  quiet := by
    rw [settled_owners hown]
    intro record hm
    refine hd.quiet record ?_
    rw [hown, List.map_append]
    exact List.mem_append_right _ hm

theorem Orderly.tombed (hd : Orderly env d) : Orderly env (tombed d record) where
  decoded := decoded_tombed hd.decoded
  named := by
    rw [tombed_owners]
    exact hd.named
  quiet := by
    rw [tombed_owners]
    exact hd.quiet

end Cuts

/-! ## Convergence -/

/-- A run from `start` that ended in `s` has converged. -/
structure Converged (env env' : ReconcileEnv) (start s : ReconcileState) : Prop where
  /-- No record is left. -/
  clean : s.dir.owners = []
  /-- The tombstones it found and those it leaves are asserted. -/
  asserted : ∀ name t, (name, .tombstone t) ∈ start.dir.tombs ∨ (name, .tombstone t) ∈ s.dir.tombs →
    Asserted s.admission t
  /-- Wherever it is cut, a parked record stands or its tombstone does. -/
  parked : ∀ s', (reconcile env).Reaches ReconcileState.exec start s' →
    ∀ name record, (name, .record record) ∈ start.dir.owners → Parked record →
      (name, .record record) ∈ s'.dir.owners ∨ parkedEntry record ∈ s'.dir.tombs
  /-- A process that starts after a cut ends in the same directory. -/
  restarted : ∀ s', (reconcile env).Reaches ReconcileState.exec start s' →
    ∀ admission, ∃ report s'', (reconcile env').run ReconcileState.exec ⟨s'.dir, admission⟩ =
      (.ok report, s'') ∧ s''.dir = s.dir
  /-- Running it once more changes nothing. -/
  again : ∃ report, (reconcile env').run ReconcileState.exec s = (.ok report, s)

/-- A run from `start` does not raise and converges. -/
def Converges (env env' : ReconcileEnv) (start : ReconcileState) : Prop :=
  ∃ report s, (reconcile env).run ReconcileState.exec start = (.ok report, s) ∧
    Converged env env' start s

section Sufficient

variable {env env' : ReconcileEnv} {start s : ReconcileState} {records : List TransportSession}

/-- A process that starts where a run was cut ends in the same directory. -/
theorem restarted_of_orderly (hown : start.dir.owners = records.map ownEntry)
    (hd : Orderly env' start.dir)
    (h : (reconcile env).Reaches ReconcileState.exec start s) (admission : AdmissionService) :
    ∃ report s', (reconcile env').run ReconcileState.exec ⟨s.dir, admission⟩ =
      (.ok report, s') ∧ s'.dir = settled start.dir records := by
  obtain ⟨done, rest, rfl, hcut⟩ := reconcile_cut h (listRecords_of_own hown)
  have howners := settled_owners hown
  rcases hcut with hdir | ⟨record, rest', rfl, hdir⟩
  · obtain ⟨report, admission', hrun, _⟩ := reconcile_of_orderly (s := ⟨s.dir, admission⟩)
      (by rw [hdir]; exact howners) (by rw [hdir]; exact hd.settled hown)
    exact ⟨report, _, hrun, by rw [settled_append, hdir]⟩
  · obtain ⟨report, admission', hrun, _⟩ := reconcile_of_orderly (s := ⟨s.dir, admission⟩)
      (by rw [hdir, tombed_owners]; exact howners)
      (by rw [hdir]; exact (hd.settled hown).tombed)
    exact ⟨report, _, hrun, by
      rw [settled_append, hdir, settled_cons, settled_cons, reapedDir_tombed]⟩

theorem parked_of_orderly (hown : start.dir.owners = records.map ownEntry)
    (h : (reconcile env).Reaches ReconcileState.exec start s) {record : TransportSession}
    (hm : ownEntry record ∈ start.dir.owners) (hparked : Parked record) :
    ownEntry record ∈ s.dir.owners ∨ parkedEntry record ∈ s.dir.tombs := by
  obtain ⟨done, rest, rfl, hcut⟩ := reconcile_cut h (listRecords_of_own hown)
  rcases hcut with hdir | ⟨next, rest', rfl, hdir⟩
  · rw [hdir]
    exact parked_kept hown rfl (fun _ _ => id) hm hparked
  · rw [hdir]
    refine parked_kept hown (tombed_owners ..) (fun done hdone hentry => ?_) hm hparked
    refine mem_tombed hentry fun hname => ?_
    have hkey : done.targetKey = next.targetKey := FileName.own.inj hname
    have hdistinct := start.dir.distinct
    rw [hown, List.map_map, List.map_append, List.nodup_append] at hdistinct
    exact hdistinct.2.2 _ (List.mem_map_of_mem hdone) _ (List.mem_map_of_mem List.mem_cons_self)
      (by simp [ownEntry, hkey])

/-- A run on an orderly directory converges. -/
theorem converges_of_orderly (hd : Orderly env start.dir) (hd' : Orderly env' start.dir) :
    Converges env env' start := by
  obtain ⟨records, hown⟩ := hd.records
  obtain ⟨report, admission, hrun, hfound, hleft⟩ := reconcile_of_orderly hown hd
  have hown' : start.dir.owners = (records ++ []).map ownEntry := by rw [List.append_nil, hown]
  have hclean : (settled start.dir records).owners = [] := settled_owners hown'
  refine ⟨report, _, hrun, hclean, ?_, ?_, ?_, ?_⟩
  · rintro name t (hm | hm)
    · exact hfound name t hm
    · exact hleft name t hm
  · intro s' hcut name record hm hparked
    obtain ⟨own, heq⟩ := hd.named _ hm
    obtain ⟨rfl, hrecord⟩ := Prod.mk.inj heq
    obtain rfl := OwnerFile.record.inj hrecord
    exact parked_of_orderly hown hcut hm hparked
  · exact fun s' hcut admission' => restarted_of_orderly hown hd' hcut admission'
  · refine ⟨⟨[], []⟩, ?_⟩
    have hreassert := reassert_again (s := ⟨settled start.dir records, admission⟩)
      (decoded_settled hd.decoded) hleft
    have hlist : (settled start.dir records).listRecords = .ok [] := listRecords_of_own hclean
    unfold reconcile
    simp only [Prog.run_bind, Prog.run_perform, ReconcileState.exec, hreassert, hlist]
    rfl

end Sufficient

/-! ## Files under foreign names -/

/-- All files read, and taking down the records clears the directory. -/
def Cleared (d : RegistryDir) : Prop :=
  ∃ records, d.listRecords = .ok records ∧ (settled d records).owners = []

/-- Every file stands under the name of its own target. -/
def Named (d : RegistryDir) : Prop := ∀ file ∈ d.owners, ∃ record, file = ownEntry record

section Names

variable {d : RegistryDir} {record : TransportSession} {records : List TransportSession}

theorem mem_listRecords (hlist : d.listRecords = .ok records) {file : FileName × OwnerFile}
    (hm : file ∈ d.owners) : ∃ record ∈ records, file.2 = .record record := by
  rw [RegistryDir.listRecords_eq_ok] at hlist
  have hcontent : file.2 ∈ records.map OwnerFile.record := hlist ▸ List.mem_map_of_mem hm
  obtain ⟨record, hrecord, heq⟩ := List.mem_map.mp hcontent
  exact ⟨record, hrecord, heq.symm⟩

theorem listRecords_mem (hlist : d.listRecords = .ok records) (hm : record ∈ records) :
    ∃ name, (name, .record record) ∈ d.owners := by
  rw [RegistryDir.listRecords_eq_ok] at hlist
  have hcontent : OwnerFile.record record ∈ d.owners.map Prod.snd :=
    hlist ▸ List.mem_map_of_mem hm
  obtain ⟨⟨name, content⟩, hfile, rfl⟩ := List.mem_map.mp hcontent
  exact ⟨name, hfile⟩

/-- A file whose name no record looks for stays. -/
theorem mem_settled_owners {name : FileName} {content : OwnerFile}
    (hm : (name, content) ∈ d.owners)
    (hother : ∀ record ∈ records, name ≠ .own record.targetKey) :
    (name, content) ∈ (settled d records).owners := by
  induction records generalizing d with
  | nil => exact hm
  | cons record records ih =>
      obtain ⟨hrecord, hrest⟩ := List.forall_mem_cons.mp hother
      refine ih (RegistryDir.mem_deleteRecord ?_ fun hname => absurd hname hrecord) hrest
      rwa [tombed_owners]

/-- In a directory that will be cleared some record looks for each file. -/
theorem Cleared.looked (hd : Cleared d) {file : FileName × OwnerFile} (hm : file ∈ d.owners) :
    ∃ name record, (name, .record record) ∈ d.owners ∧ file.1 = .own record.targetKey := by
  obtain ⟨records, hlist, hclear⟩ := hd
  by_contra hnone
  have hstays : file ∈ (settled d records).owners := by
    refine mem_settled_owners hm fun record hrecord hname => hnone ?_
    obtain ⟨name, hfile⟩ := listRecords_mem hlist hrecord
    exact ⟨name, record, hfile, hname⟩
  rw [hclear] at hstays
  cases hstays

/-- If the files that are left after one record was taken down stand under their own
names, so did the one that was removed. -/
theorem Named.of_reaped (hd : Cleared d) (hnext : Named (reapedDir d record)) : Named d := by
  intro file hm
  have hdelete : reapedDir d record = tombed d record ∨
      reapedDir d record = (tombed d record).unlinkOwner record.targetKey :=
    RegistryDir.deleteRecord_owners
  rcases hdelete with hsame | hunlinked
  · refine hnext file ?_
    rwa [hsame, tombed_owners]
  have hleft : ∀ other ∈ d.owners, other.1 ≠ .own record.targetKey →
      ∃ r, other = ownEntry r := fun other hother hne => by
    refine hnext other ?_
    rw [hunlinked, RegistryDir.unlinkOwner_owners, tombed_owners]
    exact List.mem_filter.mpr ⟨hother, by simpa using hne⟩
  by_cases hname : file.1 = .own record.targetKey
  · -- the record that looks for this file stands under its own name, or is this file
    obtain ⟨name, looker, hlooker, hlooks⟩ := hd.looked hm
    by_cases hlname : name = .own record.targetKey
    · have hsame : file = (name, .record looker) := by
        have hfile : (name, file.2) ∈ d.owners := by
          rw [hlname, ← hname]
          exact hm
        rw [← Association.eq_of_mem d.distinct hfile hlooker, hlname, ← hname]
      exact ⟨looker, hsame.trans (by rw [hlname, ← hname, hlooks, ownEntry])⟩
    · obtain ⟨r, heq⟩ := hleft _ hlooker hlname
      obtain ⟨hown, hrecord⟩ := Prod.mk.inj heq
      obtain rfl := OwnerFile.record.inj hrecord
      exact absurd (hown.trans (hlooks.symm.trans hname)) hlname
  · exact hleft file hm hname

/-- Wherever it is cut, the directory will still be cleared: all names are right. -/
theorem Named.of_cleared (hclear : ∀ done rest, records = done ++ rest → Cleared (settled d done))
    (hend : (settled d records).owners = []) : Named d := by
  induction records generalizing d with
  | nil =>
      intro file hm
      rw [settled_nil] at hend
      rw [hend] at hm
      cases hm
  | cons record records ih =>
      refine Named.of_reaped (hclear [] _ rfl) (ih (fun done rest heq => ?_) hend)
      exact hclear (record :: done) rest (by rw [heq, List.cons_append])

end Names

section Necessary

variable {env env' : ReconcileEnv} {start s s' : ReconcileState}
  {records done rest : List TransportSession} {report : OrphanReapReport}

/-- A run that ended was at each of its cuts. -/
theorem reapOrphans_cut
    (h : (reapOrphans env (done ++ rest) report).run ReconcileState.exec s = (.ok report', s')) :
    ∃ s'', (reapOrphans env (done ++ rest) report).Reaches ReconcileState.exec s s'' ∧
      s''.dir = settled s.dir done := by
  induction done generalizing s report with
  | nil => exact ⟨s, Prog.reaches_refl _ _, rfl⟩
  | cons record done ih =>
      rw [List.cons_append, reapOrphans, Prog.run_bind] at h
      split at h
      · rename_i reap s₁ hreap
        obtain ⟨s'', hcut, hdir⟩ := ih h
        rw [(reapOrphan_ok hreap).2.1] at hdir
        exact ⟨s'', (Prog.reaches_bind ..).mpr (.inr ⟨reap, s₁, hreap, hcut⟩), hdir⟩
      · cases h

theorem reconcile_reaches_of {s₁ : ReconcileState}
    (hreassert : (Prog.forEach start.dir.tombs fun file => reassertTombstone file.2).run
      ReconcileState.exec start = (.ok (), s₁))
    (hlist : s₁.dir.listRecords = .ok records)
    (hcut : (reapOrphans env records ⟨[], []⟩).Reaches ReconcileState.exec s₁ s) :
    (reconcile env).Reaches ReconcileState.exec start s := by
  unfold reconcile
  simp only [Prog.reaches_bind, Prog.reaches_perform, Prog.run_perform, ReconcileState.exec]
  exact .inr ⟨start.dir.tombs, start, rfl, .inr ⟨(), s₁, hreassert,
    .inr ⟨records, s₁, by rw [hlist], hcut⟩⟩⟩

/-- A run that clears the directory. -/
theorem cleared_of_ok (h : (reconcile env).run ReconcileState.exec s = (.ok report, s'))
    (hclean : s'.dir.owners = []) : Cleared s.dir := by
  obtain ⟨records, s₁, _, hlist, hdir, _, hreap⟩ := reconcile_ok h
  refine ⟨records, hlist, ?_⟩
  rw [← hdir, ← (reapOrphans_ok hreap).2]
  exact hclean

/-- The directory a run converges on was orderly. -/
theorem orderly_of_converges (h : Converges env env' start) :
    Orderly env start.dir ∧ Orderly env' start.dir := by
  obtain ⟨report, s, hrun, hconverged⟩ := h
  obtain ⟨records, s₁, hdecoded, hlist, hdir, hreassert, hreap⟩ := reconcile_ok hrun
  obtain ⟨hquiet, hend⟩ := reapOrphans_ok hreap
  rw [hdir] at hend
  have hnamed : Named start.dir := by
    have hclear : ∀ done rest, records = done ++ rest → Cleared (settled start.dir done) := by
      rintro done rest rfl
      obtain ⟨s'', hcut, hmid⟩ := reapOrphans_cut hreap
      obtain ⟨report', s₃, hagain, hsame⟩ := hconverged.restarted s''
        (reconcile_reaches_of hreassert (by rw [hdir, hlist]) hcut) s''.admission
      rw [← hdir, ← hmid]
      exact cleared_of_ok hagain (by rw [hsame, hconverged.clean])
    refine Named.of_cleared hclear ?_
    rw [← hend]
    exact hconverged.clean
  have hquiet' : ∀ record ∈ records, QuietOn env' record := by
    obtain ⟨report', s₃, hagain, _⟩ := hconverged.restarted start (Prog.reaches_refl _ _)
      start.admission
    obtain ⟨records', s₄, _, hlist', _, _, hreap'⟩ := reconcile_ok hagain
    rw [hlist] at hlist'
    obtain rfl := Except.ok.inj hlist'
    exact (reapOrphans_ok hreap').1
  have hread : ∀ record, ownEntry record ∈ start.dir.owners → record ∈ records :=
    fun record hm => by
      obtain ⟨record', hrecord', heq⟩ := mem_listRecords hlist hm
      rwa [OwnerFile.record.inj heq]
  exact ⟨⟨hdecoded, hnamed, fun record hm => hquiet record (hread record hm)⟩,
    ⟨hdecoded, hnamed, fun record hm => hquiet' record (hread record hm)⟩⟩

end Necessary

/-- A directory whose only record was truncated. -/
def RegistryDir.truncatedRecord : RegistryDir where
  owners := [(.own ⟨"local-qemu", "vm"⟩, .unreadable)]
  tombs := []
  distinct := by simp

/-- A directory whose only tombstone is not text. -/
def RegistryDir.binaryTombstone : RegistryDir where
  owners := []
  tombs := [(.own ⟨"local-qemu", "vm"⟩, .undecodable)]
  distinct := by simp

end Kdive

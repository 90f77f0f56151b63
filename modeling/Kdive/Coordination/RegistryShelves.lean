import Kdive.Coordination.RegistryDisk

/-!
# What the registry is for

A target has a shelf with its record and its tombstone.  A write replaces one of them, a delete
takes it away, and either is there for good once the directory is synced behind it.

*Outcomes.*  `Call.outcome` says what a call answers and what it makes of the shelf of its
target.  A call that is cut has done nothing, or all but the last of it (`Does`).

*Simulation.*  The directory shows a shelf (`Shows`) when its two files read as what is on it, now and
in every state that a power loss may bring back.  Each call on the files then does to the shelf what
its outcome says (`simulates`).
-/

namespace Kdive.Registry

open Program Prog DiskOp Durable

/-- The record and the tombstone of a target. -/
structure Shelf (R : Type) where
  record : Durable.Cell R
  tomb : Durable.Cell RecoveryTombstone

/-- A shelf with nothing on it. -/
def Shelf.empty {R : Type} : Shelf R := ⟨.empty, .empty⟩

/-! ## Outcomes -/

section Outcomes

variable {α : Type}

/-- What a write answers. -/
def writeAnswer (payload : Option (List Nat)) (fates : Fates) : Except DiskError Unit :=
  if fates.create then .error .os
  else
    match payload with
    | none => .error .value
    | some _ =>
        if fates.through.isSome || fates.sync || fates.replace then .error .os else .ok ()

/-- A value is put in the place of what is there. -/
def written (cell : Durable.Cell α) (value : α) (payload : Option (List Nat)) (fates : Fates) :
    Except DiskError Unit × Durable.Cell α :=
  match writeAnswer payload fates with
  | .ok () => (.ok (), cell.set (some value) (!fates.syncDir))
  | .error e => (.error e, cell)

/-- What is there is taken away. -/
def removed (cell : Durable.Cell α) (fates : Fates) : Except DiskError Unit × Durable.Cell α :=
  if fates.unlink then (.error .os, cell)
  else (.ok (), if cell.now.isSome then cell.set none (!fates.syncDir) else cell)

/-- It is taken away if it is the expected one. -/
def guarded (mine : Except DiskError Bool) (cell : Durable.Cell α) (fates : Fates) :
    Except DiskError Unit × Durable.Cell α :=
  match mine with
  | .error e => (.error e, cell)
  | .ok true => removed cell fates
  | .ok false => (.ok (), cell)

end Outcomes

namespace Call

variable {R : Type}

/-- The record is the expected one. -/
def mine (format : Format R) (fails : Bool) (shelf : Shelf R) :
    Option Text → Except DiskError Bool
  | none => .ok true
  | some sessionId =>
      if shelf.record.now.isSome && fails then .error .os
      else .ok (decide (shelf.record.now.map format.sessionId = some sessionId))

/-- What a call answers, and the shelf of its target behind it. -/
def outcome (format : Format R) (fates : Fates) (shelf : Shelf R) :
    Call R → Except DiskError Unit × Shelf R
  | .writeRecord session =>
      let done := written shelf.record session (format.records.encode session) fates
      (done.1, { shelf with record := done.2 })
  | .deleteRecord _ expected =>
      let done := guarded (mine format fates.read shelf expected) shelf.record fates
      (done.1, { shelf with record := done.2 })
  | .writeTombstone tombstone =>
      let done := written shelf.tomb tombstone (format.tombs.encode tombstone) fates
      (done.1, { shelf with tomb := done.2 })
  | .clearTombstone _ generation =>
      let done := guarded (.ok (decide (fates.read = false ∧
        shelf.tomb.now.map RecoveryTombstone.generation = some generation))) shelf.tomb fates
      (done.1, { shelf with tomb := done.2 })

/-- What may come of a call, none if it is cut. -/
inductive Does (format : Format R) (fates : Fates) (call : Call R) (shelf : Shelf R) :
    Option (Except DiskError Unit) → Shelf R → Prop
  | done : Does format fates call shelf (some (call.outcome format fates shelf).1)
      (call.outcome format fates shelf).2
  | before : Does format fates call shelf none shelf
  | behind (syncDir : Bool) :
      Does format fates call shelf none (call.outcome format { fates with syncDir } shelf).2

end Call

/-! ## Files that read -/

section Files

variable {α : Type} {codec : Codec α} {mine : α → Prop}

/-- A file reads as a value. -/
inductive Reads (codec : Codec α) (mine : α → Prop) : Option File → Option α → Prop
  | none : Reads codec mine none none
  | some {file : File} {value : α} (hsynced : file.synced = true)
      (hload : codec.load file.octets = .ok value) (hmine : mine value) :
      Reads codec mine (some file) (some value)

theorem Reads.isSome {file : Option File} {value : Option α} (h : Reads codec mine file value) :
    file.isSome = value.isSome := by
  cases h <;> rfl

/-- Programs that do not touch a name leave it. -/
theorem reaches_other {β : Type} {p : Script β} {name : Text}
    (hcalls : p.Calls fun op => name ∉ op.names) {disk disk' : Disk}
    (h : p.Reaches exec disk disk') : disk' name = disk name := by
  induction p generalizing disk with
  | ret a => rw [h]
  | raise e => rw [h]
  | call op next ih =>
      rcases h with rfl | h
      · rfl
      · rw [ih _ (hcalls.2 _) h]
        exact exec_other op disk hcalls.1

theorem run_other {β : Type} {p : Script β} {name : Text}
    (hcalls : p.Calls fun op => name ∉ op.names) (disk : Disk) :
    (p.run exec disk).2 name = disk name :=
  reaches_other hcalls (reaches_run p disk)

theorem name_ne_tmpName (name : Text) : name ≠ tmpName name := by
  intro h
  have hlength := congrArg List.length h
  rw [tmpName_eq, List.length_append] at hlength
  simp at hlength

/-! ## Writes -/

section Writes

variable (disk : Disk) (name : Text) (octets : List Nat)

/-- The temporary file is opened. -/
def created : Disk := setName disk (tmpName name) ((disk (tmpName name)).put (some ⟨[], false⟩))

/-- It is written. -/
def filled : Disk :=
  setName (created disk name) (tmpName name) (appended (created disk name (tmpName name)) octets)

/-- It is synced. -/
def staged : Disk :=
  setName (filled disk name octets) (tmpName name) (synced (filled disk name octets (tmpName name)))

/-- It is put in the place of the file there is. -/
def placed : Disk :=
  setName (setName (staged disk name octets) (tmpName name)
    ((staged disk name octets (tmpName name)).put none)) name
    ((staged disk name octets name).put (some ⟨octets, true⟩))

@[simp] theorem created_name : created disk name name = disk name :=
  setName_ne _ (name_ne_tmpName name) _

@[simp] theorem filled_name : filled disk name octets name = disk name := by
  rw [filled, setName_ne _ (name_ne_tmpName name), created_name]

@[simp] theorem staged_name : staged disk name octets name = disk name := by
  rw [staged, setName_ne _ (name_ne_tmpName name), filled_name]

@[simp] theorem staged_now :
    (staged disk name octets (tmpName name)).now = some ⟨octets, true⟩ := by
  simp [staged, filled, created, synced, appended, Durable.Cell.put]

@[simp] theorem placed_name :
    placed disk name octets name = (disk name).put (some ⟨octets, true⟩) := by
  rw [placed, setName_self, staged_name]

theorem exec_created : exec (.create (tmpName name) false) disk = (.ok (), created disk name) := rfl

theorem exec_filled :
    exec (.write (tmpName name) octets none) (created disk name) =
      (.ok (), filled disk name octets) := rfl

theorem exec_torn (n : Nat) :
    exec (.write (tmpName name) octets (some n)) (created disk name) =
      (.error .os, filled disk name (octets.take n)) := rfl

theorem exec_staged :
    exec (.sync (tmpName name) false) (filled disk name octets) =
      (.ok (), staged disk name octets) := rfl

theorem exec_unsynced :
    exec (.sync (tmpName name) true) (filled disk name octets) =
      (.error .os, filled disk name octets) := rfl

theorem exec_placed :
    exec (.replace (tmpName name) name false) (staged disk name octets) =
      (.ok (), placed disk name octets) := by
  rw [exec, staged_now]
  rfl

theorem exec_unplaced :
    exec (.replace (tmpName name) name true) (staged disk name octets) =
      (.error .os, staged disk name octets) := by
  rw [exec, staged_now]
  rfl

/-- The sync behind a change, which may fail. -/
theorem exec_settled {cell : Durable.Cell File} {value : Option File} (fails : Bool)
    (h : disk name = cell.put value) :
    (exec (.syncDir [name, tmpName name] fails) disk).2 name = cell.set value (!fails) := by
  cases fails with
  | true => exact h
  | false =>
      rw [exec]
      simp [h, Durable.Cell.set]

end Writes

/-- What a write answers, and what is under its name then. -/
theorem atomicWriteJson_run (name : Text) (payload : Option (List Nat)) (fates : Fates)
    (disk : Disk) :
    ((atomicWriteJson name payload fates).run exec disk).1 = writeAnswer payload fates ∧
      ((atomicWriteJson name payload fates).run exec disk).2 name =
        match writeAnswer payload fates with
        | .ok () => (disk name).set (payload.map fun octets => ⟨octets, true⟩) (!fates.syncDir)
        | .error _ => disk name := by
  obtain ⟨create, through, sync, replace, syncDir, read, unlink⟩ := fates
  unfold atomicWriteJson writeAnswer
  cases create with
  | true => simp [run_bind, exec]
  | false =>
      cases payload with
      | none => simp [run_bind, exec_created]
      | some octets =>
          cases through with
          | some n => simp [run_bind, exec_created, exec_torn]
          | none =>
              cases sync with
              | true => simp [run_bind, exec_created, exec_filled, exec_unsynced]
              | false =>
                  cases replace with
                  | true => simp [run_bind, exec_created, exec_filled, exec_staged, exec_unplaced]
                  | false =>
                      have hsettled := exec_settled _ name syncDir (placed_name disk name octets)
                      simpa [run_bind, exec_created, exec_filled, exec_staged, exec_placed]
                        using ⟨rfl, hsettled⟩

/-- Where a write may be cut that has its temporary file on the disk. -/
theorem replace_reaches {name : Text} {octets : List Nat} {replace syncDir : Bool}
    {disk disk' : Disk}
    (h : (do
        access (.replace (tmpName name) name replace)
        access (.syncDir [name, tmpName name] syncDir) : Script Unit).Reaches exec
      (staged disk name octets) disk') :
    disk' name = disk name ∨
      replace = false ∧ ∃ settled, disk' name = (disk name).set (some ⟨octets, true⟩) settled := by
  have hstaged := staged_name disk name octets
  have hplaced := placed_name disk name octets
  rcases h with rfl | h
  · exact .inl hstaged
  cases replace with
  | true =>
      rw [exec_unplaced] at h
      rw [show disk' = _ from h]
      exact .inl hstaged
  | false =>
      rw [exec_placed] at h
      rcases h with rfl | h
      · exact .inr ⟨rfl, false, hplaced⟩
      · rw [show disk' = _ from h]
        exact .inr ⟨rfl, !syncDir, exec_settled _ name syncDir hplaced⟩

/-- Where a write may be cut. -/
theorem atomicWriteJson_reaches {name : Text} {payload : Option (List Nat)} {fates : Fates}
    {disk disk' : Disk} (h : (atomicWriteJson name payload fates).Reaches exec disk disk') :
    disk' name = disk name ∨
      writeAnswer payload fates = .ok () ∧ ∃ settled, disk' name =
        (disk name).set (payload.map fun octets => ⟨octets, true⟩) settled := by
  obtain ⟨create, through, sync, replace, syncDir, read, unlink⟩ := fates
  unfold atomicWriteJson at h
  rcases h with rfl | h
  · exact .inl rfl
  cases create with
  | true => exact .inl (congrFun (show disk' = disk from h) name)
  | false =>
      cases payload with
      | none =>
          rw [show disk' = created disk name from h]
          exact .inl (created_name disk name)
      | some octets =>
          rcases h with rfl | h
          · exact .inl (created_name disk name)
          cases through with
          | some n =>
              rw [show disk' = filled disk name (octets.take n) from h]
              exact .inl (filled_name disk name _)
          | none =>
              rcases h with rfl | h
              · exact .inl (filled_name disk name octets)
              cases sync with
              | true =>
                  rw [show disk' = filled disk name octets from h]
                  exact .inl (filled_name disk name octets)
              | false =>
                  rcases replace_reaches h with hleft | ⟨rfl, hset⟩
                  · exact .inl hleft
                  · exact .inr ⟨rfl, hset⟩

/-! ## Removals -/

/-- What a removal answers, and what is under its name then. -/
theorem remove_run (name : Text) (fates : Fates) (disk : Disk) :
    ((remove name fates).run exec disk).1 = (if fates.unlink then .error .os else .ok ()) ∧
      ((remove name fates).run exec disk).2 name =
        if fates.unlink = false ∧ (disk name).now.isSome = true then
          (disk name).set none (!fates.syncDir)
        else disk name := by
  obtain ⟨create, through, sync, replace, syncDir, read, unlink⟩ := fates
  unfold remove
  cases unlink with
  | true => simp [run_bind, exec]
  | false =>
      cases hnow : (disk name).now with
      | none => simp [run_bind, exec, Prog.when, hnow, unlinked]
      | some file =>
          have hput : setName disk name (unlinked (disk name)) name = (disk name).put none := by
            simp [unlinked, hnow]
          have hsettled := exec_settled _ name syncDir hput
          simpa [run_bind, exec, Prog.when, hnow] using hsettled

/-- Where a removal may be cut. -/
theorem remove_reaches {name : Text} {fates : Fates} {disk disk' : Disk}
    (h : (remove name fates).Reaches exec disk disk') :
    disk' name = disk name ∨
      (fates.unlink = false ∧ (disk name).now.isSome = true) ∧
        ∃ settled, disk' name = (disk name).set none settled := by
  obtain ⟨create, through, sync, replace, syncDir, read, unlink⟩ := fates
  unfold remove at h
  rcases h with rfl | h
  · exact .inl rfl
  rcases h with rfl | h
  · exact .inl rfl
  cases unlink with
  | true =>
      rw [show disk' = _ from h]
      exact .inl rfl
  | false =>
      cases hnow : (disk name).now with
      | none =>
          rw [hnow] at h
          rw [show disk' = _ from h]
          refine .inl ?_
          simp [exec, unlinked, hnow]
      | some file =>
          have hput : (exec (.unlink name false) disk).2 name = (disk name).put none := by
            simp [exec, unlinked, hnow]
          rw [hnow] at h
          rcases h with rfl | h
          · exact .inr ⟨⟨rfl, rfl⟩, false, hput⟩
          · rw [show disk' = _ from h]
            exact .inr ⟨⟨rfl, rfl⟩, !syncDir, exec_settled _ name syncDir hput⟩

/-- An access that leaves the disk. -/
def Still (op : DiskOp) : Prop := ∀ disk, (exec op disk).2 = disk

theorem still_present (name : Text) : Still (.present name) := fun _ => rfl

theorem still_read (name : Text) (fails : Bool) : Still (.read name fails) := by
  intro disk
  rw [exec]
  split
  · rfl
  · split <;> rfl

theorem reaches_still {β : Type} {p : Script β} (hcalls : p.Calls Still) {disk disk' : Disk}
    (h : p.Reaches exec disk disk') : disk' = disk := by
  induction p generalizing disk with
  | ret a => exact h
  | raise e => exact h
  | call op next ih =>
      rcases h with rfl | h
      · rfl
      · rw [ih _ (hcalls.2 _) h]
        exact hcalls.1 disk

/-! ## Cells -/

section Cells

variable {name : Text} {disk : Disk} {cell : Durable.Cell α}

/-- A program does to the file of a cell what is done to the cell.  Where it may be cut, all is as
before or done but for the sync. -/
structure Follows (codec : Codec α) (mine : α → Prop) (name : Text) (disk : Disk) (p : Script Unit)
    (cell : Durable.Cell α) (done : Fates → Except DiskError Unit × Durable.Cell α)
    (fates : Fates) : Prop where
  answer : (p.run exec disk).1 = (done fates).1
  run : Durable.Cell.Rel (Reads codec mine) ((p.run exec disk).2 name) (done fates).2
  reaches : ∀ disk', p.Reaches exec disk disk' →
    Durable.Cell.Rel (Reads codec mine) (disk' name) cell ∨
      ∃ syncDir, Durable.Cell.Rel (Reads codec mine) (disk' name) (done { fates with syncDir }).2

/-- A value that is not written is not put anywhere. -/
theorem writeAnswer_none (fates : Fates) : ∃ e, writeAnswer none fates = .error e := by
  unfold writeAnswer
  split <;> exact ⟨_, rfl⟩

theorem write_follows (hcell : Durable.Cell.Rel (Reads codec mine) (disk name) cell) (value : α)
    (hmine : mine value) (fates : Fates) :
    Follows codec mine name disk (atomicWriteJson name (codec.encode value) fates) cell
      (written cell value (codec.encode value)) fates := by
  obtain ⟨hanswer, hname⟩ := atomicWriteJson_run name (codec.encode value) fates disk
  have hset : writeAnswer (codec.encode value) fates = .ok () → ∀ settled,
      Durable.Cell.Rel (Reads codec mine)
        ((disk name).set ((codec.encode value).map fun octets => ⟨octets, true⟩) settled)
        (cell.set (some value) settled) := by
    intro hok settled
    cases hpayload : codec.encode value with
    | none =>
        obtain ⟨e, he⟩ := writeAnswer_none fates
        rw [hpayload, he] at hok
        cases hok
    | some octets =>
        exact hcell.set (.some rfl (codec.load_encode value octets hpayload) hmine) settled
  constructor
  · rw [hanswer, written]
    cases writeAnswer (codec.encode value) fates <;> rfl
  · rw [hname, written]
    cases hok : writeAnswer (codec.encode value) fates with
    | error e => exact hcell
    | ok done => exact hset hok _
  · intro disk' h
    rcases atomicWriteJson_reaches h with hleft | ⟨hok, settled, hdone⟩
    · rw [hleft]
      exact .inl hcell
    · have hok' : writeAnswer (codec.encode value) { fates with syncDir := !settled } = .ok () :=
        hok
      refine .inr ⟨!settled, ?_⟩
      rw [hdone, written, hok', Bool.not_not]
      exact hset hok settled

theorem remove_follows (hcell : Durable.Cell.Rel (Reads codec mine) (disk name) cell)
    (fates : Fates) :
    Follows codec mine name disk (remove name fates) cell (removed cell) fates := by
  obtain ⟨hanswer, hname⟩ := remove_run name fates disk
  constructor
  · rw [hanswer, removed]
    split <;> rfl
  · rw [hname, hcell.now.isSome, removed]
    cases fates.unlink with
    | true => exact hcell
    | false =>
        cases cell.now.isSome with
        | false => exact hcell
        | true => exact hcell.set .none _
  · intro disk' h
    rcases remove_reaches h with hleft | ⟨⟨hunlink, hnow⟩, settled, hdone⟩
    · rw [hleft]
      exact .inl hcell
    · rw [hcell.now.isSome] at hnow
      refine .inr ⟨!settled, ?_⟩
      rw [hdone, removed]
      simp only [hunlink, hnow, Bool.false_eq_true, if_false, if_true, Bool.not_not]
      exact hcell.set .none _

/-- A removal behind a check that leaves the disk. -/
theorem guarded_follows (hcell : Durable.Cell.Rel (Reads codec mine) (disk name) cell)
    {check : Script Bool} {answer : Except DiskError Bool} (hcheck : check.run exec disk = (answer, disk))
    (hstill : check.Calls Still) (fates : Fates) :
    Follows codec mine name disk
      (check >>= fun mine => Prog.when (mine = true) (remove name fates)) cell (guarded answer cell)
      fates := by
  have hremove := remove_follows hcell fates
  constructor
  · rw [run_bind, hcheck]
    match answer with
    | .error e => rfl
    | .ok true => exact hremove.answer
    | .ok false => rfl
  · rw [run_bind, hcheck]
    match answer with
    | .error e => exact hcell
    | .ok true => exact hremove.run
    | .ok false => exact hcell
  · intro disk' h
    rcases (reaches_bind _ _ _ _).mp h with h | ⟨mine, between, hrun, h⟩
    · rw [reaches_still hstill h]
      exact .inl hcell
    · rw [hcheck] at hrun
      cases hrun
      cases mine with
      | true => exact hremove.reaches disk' h
      | false =>
          rw [show disk' = disk from h]
          exact .inl hcell

end Cells

end Files

/-! ## Reads -/

section ReadBack

variable {R : Type} {format : Format R} {targetKey : TargetKey} {digest : Text} {disk : Disk}
  {shelf : Shelf R}

/-- The directory shows a shelf. -/
structure Shows (format : Format R) (targetKey : TargetKey) (digest : Text) (disk : Disk)
    (shelf : Shelf R) : Prop where
  record : Durable.Cell.Rel (Reads format.records (format.target · = targetKey))
    (disk (recordName digest)) shelf.record
  tomb : Durable.Cell.Rel (Reads format.tombs (RecoveryTombstone.targetKey · = targetKey))
    (disk (tombName digest)) shelf.tomb

theorem run_digest (hdigest : recoveryKey format.sha256 targetKey = some digest) :
    format.digest targetKey = .ret digest := by
  rw [Format.digest, hdigest]
  rfl

/-- A record is read as it is on the shelf. -/
theorem readRecord_run (hdigest : recoveryKey format.sha256 targetKey = some digest)
    (h : Shows format targetKey digest disk shelf) (fails : Bool) :
    (format.readRecord targetKey fails).run exec disk =
      (if shelf.record.now.isSome && fails then .error .os else .ok shelf.record.now, disk) := by
  have hnow := h.record.now
  rw [Format.readRecord, run_digest hdigest, ret_bind]
  generalize hfile : (disk (recordName digest)).now = file at hnow
  generalize shelf.record.now = value at hnow
  cases hnow with
  | none => simp [run_bind, exec, hfile]
  | some hsynced hload hmine => cases fails <;> simp [run_bind, exec, hfile, hload]

/-- A tombstone is read as it is on the shelf.  One that cannot be read is none. -/
theorem readTombstone_run (hdigest : recoveryKey format.sha256 targetKey = some digest)
    (h : Shows format targetKey digest disk shelf) (fails : Bool) :
    (format.readTombstone targetKey fails).run exec disk =
      (.ok (if fails then none else shelf.tomb.now), disk) := by
  have hnow := h.tomb.now
  rw [Format.readTombstone, run_digest hdigest, ret_bind]
  generalize hfile : (disk (tombName digest)).now = file at hnow
  generalize shelf.tomb.now = value at hnow
  cases hnow with
  | none => cases fails <;> simp [run_bind, exec, hfile]
  | some hsynced hload hmine =>
      cases fails <;> simp [run_bind, run_rescue, exec, Format.loadTombstone, hfile, hload]

end ReadBack

/-! ## Calls -/

section Calls

variable {R : Type} {format : Format R} {targetKey : TargetKey} {digest : Text}

/-- The names of a target: its files and what they are written as first. -/
def Owns (digest name : Text) : Prop :=
  ∃ family : Family, name = family.name digest ∨ name = tmpName (family.name digest)

theorem Owns.eq {digest' name : Text} (h : Owns digest name) (h' : Owns digest' name) :
    digest = digest' := by
  obtain ⟨family, rfl | rfl⟩ := h
  · obtain ⟨family', h' | h'⟩ := h'
    · exact (Family.name_inj h').2
    · exact absurd h' (family.name_ne_tmpName _ _)
  · obtain ⟨family', h' | h'⟩ := h'
    · exact absurd h'.symm (family'.name_ne_tmpName _ _)
    · exact (Family.name_inj (tmpName_inj h')).2

/-- An access to one file, or to what it is written as first. -/
def At (name : Text) (op : DiskOp) : Prop := ∀ n ∈ op.names, n = name ∨ n = tmpName name

theorem mem_own {name : Text} : ∀ n ∈ [name], n = name ∨ n = tmpName name := fun _ hn =>
  .inl (List.mem_singleton.mp hn)

theorem mem_both {name : Text} : ∀ n ∈ [name, tmpName name], n = name ∨ n = tmpName name := by
  intro n hn
  simpa using hn

theorem atomicWriteJson_at (name : Text) (payload : Option (List Nat)) (fates : Fates) :
    (atomicWriteJson name payload fates).Calls (At name) := by
  have htmp : ∀ n ∈ [tmpName name], n = name ∨ n = tmpName name := fun n hn =>
    .inr (List.mem_singleton.mp hn)
  have hboth : ∀ n ∈ [tmpName name, name], n = name ∨ n = tmpName name := by
    intro n hn
    simpa [or_comm] using hn
  exact .bind (.call htmp) fun _ => .bind (calls_ofExcept _) fun _ => .bind (.call htmp) fun _ =>
    .bind (.call htmp) fun _ => .bind (.call hboth) fun _ => .call mem_both

theorem remove_at (name : Text) (fates : Fates) : (remove name fates).Calls (At name) :=
  .bind (.call mem_own) fun _ => .bind (.call mem_own) fun _ => .when fun _ => .call mem_both

theorem readRecord_calls (hdigest : recoveryKey format.sha256 targetKey = some digest)
    (fails : Bool) :
    (format.readRecord targetKey fails).Calls fun op => At (recordName digest) op ∧ Still op := by
  rw [Format.readRecord, run_digest hdigest, ret_bind]
  refine .bind (.call ⟨mem_own, still_present _⟩) fun there => ?_
  cases there with
  | false => trivial
  | true =>
      exact .bind (.call ⟨mem_own, still_read _ _⟩) fun _ => .bind (calls_ofExcept _) fun _ => trivial

theorem isMine_calls (hdigest : recoveryKey format.sha256 targetKey = some digest)
    (expected : Option Text) (fails : Bool) :
    (format.isMine targetKey expected fails).Calls fun op =>
      At (recordName digest) op ∧ Still op := by
  cases expected with
  | none => trivial
  | some sessionId => exact .bind (readRecord_calls hdigest fails) fun _ => trivial

theorem readTombstone_calls (hdigest : recoveryKey format.sha256 targetKey = some digest)
    (fails : Bool) :
    (format.readTombstone targetKey fails).Calls fun op => At (tombName digest) op ∧ Still op := by
  rw [Format.readTombstone, run_digest hdigest, ret_bind]
  refine .bind (.call ⟨mem_own, still_present _⟩) fun there => ?_
  cases there with
  | false => trivial
  | true =>
      refine .rescue (.bind (.call ⟨mem_own, still_read _ _⟩) fun _ => .bind (calls_ofExcept _)
        fun _ => trivial) fun e => ?_
      split <;> trivial

variable {disk : Disk} {shelf : Shelf R}

theorem isMine_run (hdigest : recoveryKey format.sha256 targetKey = some digest)
    (h : Shows format targetKey digest disk shelf) (expected : Option Text) (fails : Bool) :
    (format.isMine targetKey expected fails).run exec disk =
      (Call.mine format fails shelf expected, disk) := by
  cases expected with
  | none => rfl
  | some sessionId =>
      rw [Format.isMine, run_bind, readRecord_run hdigest h, Call.mine]
      cases shelf.record.now.isSome && fails with
      | false => rfl
      | true => rfl

theorem isCurrent_calls (hdigest : recoveryKey format.sha256 targetKey = some digest)
    (generation : Int) (fails : Bool) :
    (format.isCurrent targetKey generation fails).Calls fun op => At (tombName digest) op ∧ Still op :=
  .bind (readTombstone_calls hdigest fails) fun _ => trivial

theorem isCurrent_run (hdigest : recoveryKey format.sha256 targetKey = some digest)
    (h : Shows format targetKey digest disk shelf) (generation : Int) (fails : Bool) :
    (format.isCurrent targetKey generation fails).run exec disk =
      (.ok (decide (fails = false ∧
        shelf.tomb.now.map RecoveryTombstone.generation = some generation)), disk) := by
  rw [Format.isCurrent, run_bind, readTombstone_run hdigest h]
  cases fails with
  | false => simp
  | true => simp

/-- The file a call is about. -/
def Call.family : Call R → Family
  | .writeRecord _ | .deleteRecord _ _ => .record
  | .writeTombstone _ | .clearTombstone _ _ => .tomb

section Scripts

variable (fates : Fates)

theorem script_writeRecord {session : R}
    (hdigest : recoveryKey format.sha256 (format.target session) = some digest) :
    (Call.writeRecord session).script format fates =
      atomicWriteJson (recordName digest) (format.records.encode session) fates := by
  rw [Call.script, Format.writeRecord, run_digest hdigest, ret_bind]

theorem script_deleteRecord (hdigest : recoveryKey format.sha256 targetKey = some digest)
    (expected : Option Text) :
    (Call.deleteRecord targetKey expected).script format fates =
      format.isMine targetKey expected fates.read >>= fun mine =>
        Prog.when (mine = true) (remove (recordName digest) fates) := by
  rw [Call.script, Format.deleteRecord, run_digest hdigest]
  rfl

theorem script_writeTombstone {tombstone : RecoveryTombstone}
    (hdigest : recoveryKey format.sha256 tombstone.targetKey = some digest) :
    (Call.writeTombstone tombstone : Call R).script format fates =
      atomicWriteJson (tombName digest) (format.tombs.encode tombstone) fates := by
  rw [Call.script, Format.writeTombstone, run_digest hdigest, ret_bind]

theorem script_clearTombstone (hdigest : recoveryKey format.sha256 targetKey = some digest)
    (generation : Int) :
    (Call.clearTombstone targetKey generation : Call R).script format fates =
      format.isCurrent targetKey generation fates.read >>= fun mine =>
        Prog.when (mine = true) (remove (tombName digest) fates) := by
  rw [Call.script, Format.clearTombstone, run_digest hdigest]
  rfl

end Scripts

/-- All accesses of a call are to its file. -/
theorem script_at {call : Call R}
    (hdigest : recoveryKey format.sha256 (call.target format) = some digest) (fates : Fates) :
    (call.script format fates).Calls (At (call.family.name digest)) := by
  cases call with
  | writeRecord session =>
      rw [script_writeRecord fates hdigest]
      exact atomicWriteJson_at _ _ _
  | deleteRecord targetKey expected =>
      change recoveryKey format.sha256 targetKey = some digest at hdigest
      rw [script_deleteRecord fates hdigest]
      exact .bind ((isMine_calls hdigest expected fates.read).mono fun _ h => h.1) fun _ =>
        .when fun _ => remove_at _ _
  | writeTombstone tombstone =>
      rw [script_writeTombstone fates hdigest]
      exact atomicWriteJson_at _ _ _
  | clearTombstone targetKey generation =>
      change recoveryKey format.sha256 targetKey = some digest at hdigest
      rw [script_clearTombstone fates hdigest]
      exact .bind ((isCurrent_calls hdigest generation fates.read).mono fun _ h => h.1) fun _ =>
        .when fun _ => remove_at _ _

/-- It leaves the other file. -/
theorem At.other {family family' : Family} (hne : family ≠ family') {op : DiskOp}
    (h : At (family.name digest) op) : family'.name digest ∉ op.names := by
  intro hmem
  rcases h _ hmem with heq | heq
  · exact hne (Family.name_inj heq).1.symm
  · exact family'.name_ne_tmpName _ _ heq

/-- What a script for the record's file does to the shelf. -/
theorem Shows.ofRecord (h : Shows format targetKey digest disk shelf) {p : Script Unit}
    (hcalls : p.Calls (At (recordName digest))) {disk' : Disk} (hreaches : p.Reaches exec disk disk')
    {record : Durable.Cell R}
    (hrecord : Durable.Cell.Rel (Reads format.records (format.target · = targetKey))
      (disk' (recordName digest)) record) :
    Shows format targetKey digest disk' { shelf with record } := by
  have hother : disk' (tombName digest) = disk (tombName digest) :=
    reaches_other (hcalls.mono fun _ hat => At.other (show Family.record ≠ .tomb from nofun) hat) hreaches
  refine ⟨hrecord, ?_⟩
  rw [hother]
  exact h.tomb

theorem Shows.ofTomb (h : Shows format targetKey digest disk shelf) {p : Script Unit}
    (hcalls : p.Calls (At (tombName digest))) {disk' : Disk} (hreaches : p.Reaches exec disk disk')
    {tomb : Durable.Cell RecoveryTombstone}
    (htomb : Durable.Cell.Rel (Reads format.tombs (RecoveryTombstone.targetKey · = targetKey))
      (disk' (tombName digest)) tomb) :
    Shows format targetKey digest disk' { shelf with tomb } := by
  have hother : disk' (recordName digest) = disk (recordName digest) :=
    reaches_other (hcalls.mono fun _ hat => At.other (show Family.tomb ≠ .record from nofun) hat) hreaches
  refine ⟨?_, htomb⟩
  rw [hother]
  exact h.record

/-- A call does to its target's shelf what its outcome says, and where it may be cut one of the
things that may come of it. -/
structure Simulates (format : Format R) (targetKey : TargetKey) (digest : Text) (disk : Disk)
    (shelf : Shelf R) (call : Call R) (fates : Fates) : Prop where
  answer : ((call.script format fates).run exec disk).1 = (call.outcome format fates shelf).1
  run : Shows format targetKey digest ((call.script format fates).run exec disk).2
    (call.outcome format fates shelf).2
  reaches : ∀ disk', (call.script format fates).Reaches exec disk disk' →
    ∃ shelf', call.Does format fates shelf none shelf' ∧ Shows format targetKey digest disk' shelf'

/-- A program that follows the record does to the shelf what it does to the record. -/
theorem Follows.record {call : Call R} {fates : Fates}
    {done : Fates → Except DiskError Unit × Durable.Cell R}
    (hfollows : Follows format.records (format.target · = targetKey) (recordName digest) disk
      (call.script format fates) shelf.record done fates)
    (h : Shows format targetKey digest disk shelf)
    (hcalls : (call.script format fates).Calls (At (recordName digest)))
    (hdone : ∀ syncDir, call.outcome format { fates with syncDir } shelf =
      ((done { fates with syncDir }).1, { shelf with record := (done { fates with syncDir }).2 })) :
    Simulates format targetKey digest disk shelf call fates := by
  have hnow : call.outcome format fates shelf =
    ((done fates).1, { shelf with record := (done fates).2 }) := hdone fates.syncDir
  constructor
  · rw [hnow]
    exact hfollows.answer
  · rw [hnow]
    exact h.ofRecord hcalls (reaches_run _ _) hfollows.run
  · intro disk' hreaches
    rcases hfollows.reaches disk' hreaches with hsame | ⟨syncDir, hbehind⟩
    · exact ⟨shelf, .before, h.ofRecord hcalls hreaches hsame⟩
    · refine ⟨_, .behind syncDir, ?_⟩
      rw [hdone]
      exact h.ofRecord hcalls hreaches hbehind

theorem Follows.tomb {call : Call R} {fates : Fates}
    {done : Fates → Except DiskError Unit × Durable.Cell RecoveryTombstone}
    (hfollows : Follows format.tombs (RecoveryTombstone.targetKey · = targetKey) (tombName digest)
      disk (call.script format fates) shelf.tomb done fates)
    (h : Shows format targetKey digest disk shelf)
    (hcalls : (call.script format fates).Calls (At (tombName digest)))
    (hdone : ∀ syncDir, call.outcome format { fates with syncDir } shelf =
      ((done { fates with syncDir }).1, { shelf with tomb := (done { fates with syncDir }).2 })) :
    Simulates format targetKey digest disk shelf call fates := by
  have hnow : call.outcome format fates shelf =
    ((done fates).1, { shelf with tomb := (done fates).2 }) := hdone fates.syncDir
  constructor
  · rw [hnow]
    exact hfollows.answer
  · rw [hnow]
    exact h.ofTomb hcalls (reaches_run _ _) hfollows.run
  · intro disk' hreaches
    rcases hfollows.reaches disk' hreaches with hsame | ⟨syncDir, hbehind⟩
    · exact ⟨shelf, .before, h.ofTomb hcalls hreaches hsame⟩
    · refine ⟨_, .behind syncDir, ?_⟩
      rw [hdone]
      exact h.ofTomb hcalls hreaches hbehind

/-- Each call on the files is one on the shelf. -/
theorem simulates {call : Call R}
    (hdigest : recoveryKey format.sha256 (call.target format) = some digest)
    (h : Shows format (call.target format) digest disk shelf) (fates : Fates) :
    Simulates format (call.target format) digest disk shelf call fates := by
  have hcalls := script_at hdigest fates
  cases call with
  | writeRecord session =>
      have hfollows := write_follows h.record session rfl fates
      rw [← script_writeRecord fates hdigest] at hfollows
      exact hfollows.record h hcalls fun _ => rfl
  | deleteRecord targetKey expected =>
      change recoveryKey format.sha256 targetKey = some digest at hdigest
      have hfollows := guarded_follows h.record (isMine_run hdigest h expected fates.read)
        ((isMine_calls hdigest expected fates.read).mono fun _ h => h.2) fates
      rw [← script_deleteRecord fates hdigest] at hfollows
      exact hfollows.record h hcalls fun _ => rfl
  | writeTombstone tombstone =>
      have hfollows := write_follows h.tomb tombstone rfl fates
      rw [← script_writeTombstone fates hdigest] at hfollows
      exact hfollows.tomb h hcalls fun _ => rfl
  | clearTombstone targetKey generation =>
      change recoveryKey format.sha256 targetKey = some digest at hdigest
      have hfollows := guarded_follows h.tomb (isCurrent_run hdigest h generation fates.read)
        ((isCurrent_calls hdigest generation fates.read).mono fun _ h => h.2) fates
      rw [← script_clearTombstone fates hdigest] at hfollows
      exact hfollows.tomb h hcalls fun _ => rfl

end Calls

end Kdive.Registry

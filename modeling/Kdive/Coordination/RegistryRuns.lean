import Kdive.Coordination.RegistryRecord
import Kdive.Coordination.RegistryShelves

/-!
# Runs of the registry

The registry goes through rounds.  In a round calls run at once, one thread for each and no two for
one target, and stop wherever the schedule ends: a process that dies cuts them there.  The power may
be lost behind a round.

*Refinement.*  The shelves of the targets go through the same rounds with the same answers
(`rounds_refine`), and at the end the registry reads as what is on them.

*Durability.*  What is acknowledged with its directory synced stays, whatever happens to other targets
(`write_kept`).
-/

namespace Kdive.Registry

open Program Prog DiskOp Durable Interleaving

variable {R : Type}

/-! ## Rounds -/

/-- What a power loss keeps of a name that had this file.  One that was not synced holds anything. -/
inductive Kept : Option File → Option File → Prop
  | none : Kept none none
  | synced {file : File} (h : file.synced = true) : Kept (some file) (some file)
  | torn {file : File} (file' : File) (h : file.synced = false) : Kept (some file) (some file')

/-- Calls at once. -/
structure Round (R : Type) where
  calls : List (Call R × Fates)
  schedule : List Nat
  /-- What the names have behind a power loss. -/
  loss : Option (Text → Option File)

/-- The threads of the registry. -/
def machine (format : Format R) : Machine DiskOp.Answer DiskError Disk (Call R × Fates) where
  exec := exec
  ready := fun _ _ => true
  body := fun call => call.1.script format call.2
  spawns := fun _ _ => []

/-- What a call has answered, none if it is cut. -/
abbrev Answer := Option (Except DiskError Unit)

/-- What a thread has answered. -/
def answered (rest : Script Unit) : Answer :=
  match rest with
  | .ret a => some (.ok a)
  | .raise e => some (.error e)
  | .call _ _ => none

namespace Round

variable (format : Format R) (round : Round R) (disk : Disk)

/-- The threads at the end of the schedule. -/
def pool : Pool DiskOp.Answer DiskError Disk (Call R × Fates) :=
  (machine format).run round.schedule ((machine format).pool disk round.calls)

/-- What the calls have answered. -/
def answers : List Answer := (round.pool format disk).threads.map fun thread => answered thread.rest

/-- The directory behind the round. -/
def step : Disk :=
  match round.loss with
  | none => (round.pool format disk).world
  | some kept => fun name => ⟨kept name, []⟩

/-- No two calls are for one target, all are for these targets, and a power loss keeps what it may. -/
structure Allowed (targets : TargetKey → Prop) : Prop where
  apart : round.calls.Pairwise fun call call' => call.1.target format ≠ call'.1.target format
  mem : ∀ call ∈ round.calls, targets (call.1.target format)
  kept : ∀ kept, round.loss = some kept → ∀ name,
    ∃ state ∈ ((round.pool format disk).world name).states, Kept state (kept name)

end Round

/-- The answers of a run. -/
def history (format : Format R) : List (Round R) → Disk → List (List Answer)
  | [], _ => []
  | round :: rounds, disk => round.answers format disk :: history format rounds (round.step format disk)

/-! ## Shelves -/

/-- A shelf behind a power loss. -/
def Shelf.Lost (shelf shelf' : Shelf R) : Prop :=
  shelf.record.Lost shelf'.record ∧ shelf.tomb.Lost shelf'.tomb

/-- The shelves of all targets. -/
abbrev Shelves (R : Type) := TargetKey → Shelf R

/-- What may come of the calls of a round. -/
structure Calls (format : Format R) (calls : List (Call R × Fates)) (answers : List Answer)
    (shelves shelves' : Shelves R) : Prop where
  does : List.Forall₂ (fun call answer => call.1.Does format call.2
    (shelves (call.1.target format)) answer (shelves' (call.1.target format))) calls answers
  others : ∀ targetKey, (∀ call ∈ calls, call.1.target format ≠ targetKey) →
    shelves' targetKey = shelves targetKey

/-- What is on the shelves behind a round. -/
def Round.Behind (round : Round R) (shelves shelves' : Shelves R) : Prop :=
  if round.loss.isSome then ∀ targetKey, (shelves targetKey).Lost (shelves' targetKey)
  else shelves' = shelves

/-- Rounds of the shelves. -/
inductive Shelves.Goes (format : Format R) :
    List (Round R) → List (List Answer) → Shelves R → Shelves R → Prop
  | nil (shelves : Shelves R) : Goes format [] [] shelves shelves
  | cons {round : Round R} {rounds : List (Round R)} {answers : List Answer}
      {history : List (List Answer)} {shelves called behind last : Shelves R}
      (hcalls : Calls format round.calls answers shelves called)
      (hbehind : round.Behind called behind) (hrest : Goes format rounds history behind last) :
      Goes format (round :: rounds) (answers :: history) shelves last

/-! ## Threads -/

section Threads

variable {format : Format R} {targets : TargetKey → Prop}

/-- The accesses of a call are to names of its target. -/
def Mine (format : Format R) (call : Call R × Fates) (op : DiskOp) : Prop :=
  ∃ digest, recoveryKey format.sha256 (call.1.target format) = some digest ∧
    ∀ name ∈ op.names, Owns digest name

/-- Two directories have the names of a call's target in common. -/
def Same (format : Format R) (call : Call R × Fates) (disk disk' : Disk) : Prop :=
  ∀ digest, recoveryKey format.sha256 (call.1.target format) = some digest →
    ∀ name, Owns digest name → disk name = disk' name

theorem Mine.not_mem {call : Call R × Fates} {op : DiskOp} (h : Mine format call op) {name : Text}
    (hname : ∀ digest, recoveryKey format.sha256 (call.1.target format) = some digest →
      ¬ Owns digest name) : name ∉ op.names := by
  obtain ⟨digest, hdigest, hnames⟩ := h
  exact fun hmem => hname digest hdigest (hnames name hmem)

theorem mine_script (hdigests : Digested format.sha256 targets) {call : Call R × Fates}
    (hmem : targets (call.1.target format)) :
    (call.1.script format call.2).Calls (Mine format call) := by
  obtain ⟨digest, hdigest⟩ := hdigests.digest hmem
  exact (script_at hdigest call.2).mono fun op hat =>
    ⟨_, hdigest, fun name hname => ⟨call.1.family, hat name hname⟩⟩

/-- What is owned by one target is not by another. -/
theorem not_owns (hdigests : Digested format.sha256 targets) {k k' : TargetKey} (hk : targets k)
    (hk' : targets k') (hne : k ≠ k') {digest name : Text}
    (hdigest : recoveryKey format.sha256 k = some digest) (howns : Owns digest name) :
    ∀ digest', recoveryKey format.sha256 k' = some digest' → ¬ Owns digest' name := by
  intro digest' hdigest' howns'
  obtain rfl := howns.eq howns'
  exact hne (hdigests.eq hk hk' hdigest hdigest')

/-- Calls for different targets act on different names. -/
theorem parts (hdigests : Digested format.sha256 targets) {calls : List (Call R × Fates)}
    (hapart : calls.Pairwise fun call call' => call.1.target format ≠ call'.1.target format)
    (hmem : ∀ call ∈ calls, targets (call.1.target format)) :
    Parts (machine format) (Same format) (Mine format) calls where
  refl := fun _ _ _ _ _ _ => rfl
  calls := fun call hcall => mine_script hdigests (hmem call hcall)
  own := by
    rintro call hcall op ⟨digest, hdigest, hnames⟩ disk disk' hsame
    obtain ⟨hanswer, hafter⟩ := exec_congr op fun name hname =>
      hsame digest hdigest name (hnames name hname)
    refine ⟨hanswer, fun digest' hdigest' name howns => ?_⟩
    by_cases hname : name ∈ op.names
    · exact hafter name hname
    · have hleft := exec_other op disk hname
      have hright := exec_other op disk' hname
      exact hleft.trans ((hsame digest' hdigest' name howns).trans hright.symm)
  others := by
    have hkeeps : ∀ call ∈ calls, ∀ call' ∈ calls, call.1.target format ≠ call'.1.target format →
        ∀ disk disk' op, Mine format call op → Same format call' disk disk' →
          Same format call' (exec op disk).2 disk' := by
      intro call hcall call' hcall' hne disk disk' op hmine hsame digest hdigest name howns
      have hother := hmine.not_mem
        (not_owns hdigests (hmem call' hcall') (hmem call hcall) hne.symm hdigest howns)
      exact (exec_other op disk hother).trans (hsame digest hdigest name howns)
    refine hapart.imp_of_mem fun hcall hcall' hne disk disk' => ⟨fun op hmine hsame => ?_,
      fun op hmine hsame => ?_⟩
    · exact hkeeps _ hcall _ hcall' hne disk disk' op hmine hsame
    · exact hkeeps _ hcall' _ hcall hne.symm disk disk' op hmine hsame
  spawns := fun _ _ => rfl

end Threads

/-! ## One round -/

section Step

variable {format : Format R} {targets : TargetKey → Prop}

/-- The directory shows the shelves of these targets, and holds no other record. -/
structure Shown (format : Format R) (targets : TargetKey → Prop) (disk : Disk)
    (shelves : Shelves R) : Prop where
  shows : ∀ targetKey digest, targets targetKey →
    recoveryKey format.sha256 targetKey = some digest →
    Shows format targetKey digest disk (shelves targetKey)
  clean : ∀ digest, (∀ targetKey, targets targetKey →
    recoveryKey format.sha256 targetKey ≠ some digest) → disk (recordName digest) = .empty

theorem Shows.congr {targetKey : TargetKey} {digest : Text} {disk disk' : Disk} {shelf : Shelf R}
    (h : Shows format targetKey digest disk shelf)
    (hsame : ∀ name, Owns digest name → disk' name = disk name) :
    Shows format targetKey digest disk' shelf := by
  refine ⟨?_, ?_⟩
  · rw [hsame (recordName digest) ⟨.record, .inl rfl⟩]
    exact h.record
  · rw [hsame (tombName digest) ⟨.tomb, .inl rfl⟩]
    exact h.tomb

/-- The names no call of a round is about stay. -/
theorem pool_other (hdigests : Digested format.sha256 targets) {round : Round R} {disk : Disk}
    (h : round.Allowed format disk targets) {name : Text}
    (hname : ∀ call ∈ round.calls, ∀ digest,
      recoveryKey format.sha256 (call.1.target format) = some digest → ¬ Owns digest name) :
    (round.pool format disk).world name = disk name :=
  solo_keeps (parts hdigests h.apart h.mem) (K := fun w => w name = disk name)
    (fun call hcall op hmine w hw =>
      (exec_other op w (hmine.not_mem (hname call hcall))).trans hw) rfl round.schedule

/-- A call of a round does to its target's shelf one of the things that may come of it. -/
theorem pool_does (hdigests : Digested format.sha256 targets) {round : Round R} {disk : Disk}
    {shelves : Shelves R} (h : round.Allowed format disk targets)
    (hshown : Shown format targets disk shelves) {i : Nat} {call : Call R × Fates}
    (hi : round.calls[i]? = some call) :
    ∃ thread shelf', (round.pool format disk).threads[i]? = some thread ∧
      call.1.Does format call.2 (shelves (call.1.target format)) (answered thread.rest) shelf' ∧
      ∀ digest, recoveryKey format.sha256 (call.1.target format) = some digest →
        Shows format (call.1.target format) digest (round.pool format disk).world shelf' := by
  have hmem := h.mem call (List.mem_of_getElem? hi)
  obtain ⟨digest, hdigest⟩ := hdigests.digest hmem
  obtain ⟨rest, alone, hthread, -, hcomes, hsame⟩ :=
    (solo (parts hdigests h.apart h.mem) disk round.schedule).comes i call hi
  have hsim := simulates hdigest (hshown.shows _ _ hmem hdigest) call.2
  have hrun := hcomes.run
  have back : ∀ shelf', Shows format (call.1.target format) digest alone shelf' → ∀ digest',
      recoveryKey format.sha256 (call.1.target format) = some digest' →
        Shows format (call.1.target format) digest' (round.pool format disk).world shelf' := by
    intro shelf' hshows digest' hdigest'
    obtain rfl := Option.some.inj (hdigest.symm.trans hdigest')
    exact hshows.congr fun name howns => hsame _ hdigest name howns
  have ended : ∀ answer, (call.1.script format call.2).run exec disk = (answer, alone) →
      ∃ shelf', call.1.Does format call.2 (shelves (call.1.target format)) (some answer) shelf' ∧
        ∀ digest', recoveryKey format.sha256 (call.1.target format) = some digest' →
          Shows format (call.1.target format) digest' (round.pool format disk).world shelf' := by
    intro answer hrun
    have hanswer := hsim.answer
    have hshows := hsim.run
    rw [hrun] at hanswer hshows
    refine ⟨_, ?_, back _ hshows⟩
    rw [show answer = _ from hanswer]
    exact .done
  cases rest with
  | ret a =>
      obtain ⟨shelf', hdoes, hshows⟩ := ended (.ok a) hrun
      exact ⟨_, shelf', hthread, hdoes, hshows⟩
  | raise e =>
      obtain ⟨shelf', hdoes, hshows⟩ := ended (.error e) hrun
      exact ⟨_, shelf', hthread, hdoes, hshows⟩
  | call op next =>
      obtain ⟨shelf', hdoes, hshows⟩ := hsim.reaches alone hcomes.reaches
      exact ⟨_, shelf', hthread, hdoes, back _ hshows⟩

/-- A target has one call in a round. -/
theorem index_eq {calls : List (Call R × Fates)}
    (hapart : calls.Pairwise fun call call' => call.1.target format ≠ call'.1.target format)
    {i j : Nat} {call call' : Call R × Fates} (hi : calls[i]? = some call)
    (hj : calls[j]? = some call') (htarget : call'.1.target format = call.1.target format) :
    i = j := by
  obtain ⟨hilt, rfl⟩ := List.getElem?_eq_some_iff.mp hi
  obtain ⟨hjlt, rfl⟩ := List.getElem?_eq_some_iff.mp hj
  have hpairs := List.pairwise_iff_getElem.mp hapart
  rcases Nat.lt_trichotomy i j with hlt | heq | hlt
  · exact absurd htarget.symm (hpairs i j hilt hjlt hlt)
  · exact heq
  · exact absurd htarget (hpairs j i hjlt hilt hlt)

/-- What becomes of the shelf of one target in a round. -/
theorem pool_shelf (hdigests : Digested format.sha256 targets) {round : Round R} {disk : Disk}
    {shelves : Shelves R} (h : round.Allowed format disk targets)
    (hshown : Shown format targets disk shelves) (targetKey : TargetKey) :
    ∃ shelf' : Shelf R,
      (∀ (i : Nat) (call : Call R × Fates), round.calls[i]? = some call →
        call.1.target format = targetKey →
        ∃ thread, (round.pool format disk).threads[i]? = some thread ∧
          call.1.Does format call.2 (shelves targetKey) (answered thread.rest) shelf') ∧
      ((∀ call ∈ round.calls, call.1.target format ≠ targetKey) → shelf' = shelves targetKey) ∧
      (targets targetKey → ∀ digest, recoveryKey format.sha256 targetKey = some digest →
        Shows format targetKey digest (round.pool format disk).world shelf') := by
  by_cases hcalled : ∃ (i : Nat) (call : Call R × Fates),
    round.calls[i]? = some call ∧ call.1.target format = targetKey
  · obtain ⟨i, call, hi, rfl⟩ := hcalled
    obtain ⟨thread, shelf', hthread, hdoes, hshows⟩ := pool_does hdigests h hshown hi
    refine ⟨shelf', fun j call' hj htarget => ?_, fun hnone => ?_, fun _ => hshows⟩
    · obtain rfl := index_eq h.apart hi hj htarget
      obtain rfl := Option.some.inj (hi.symm.trans hj)
      exact ⟨thread, hthread, hdoes⟩
    · exact absurd rfl (hnone call (List.mem_of_getElem? hi))
  · have hnot : ∀ call ∈ round.calls, call.1.target format ≠ targetKey := by
      intro call hcall htarget
      obtain ⟨i, hi⟩ := List.getElem?_of_mem hcall
      exact hcalled ⟨i, call, hi, htarget⟩
    refine ⟨shelves targetKey, fun i call hi htarget => ?_, fun _ => rfl,
      fun htargets digest hdigest => ?_⟩
    · exact absurd htarget (hnot call (List.mem_of_getElem? hi))
    · refine (hshown.shows _ _ htargets hdigest).congr fun name howns => ?_
      exact pool_other hdigests h fun call hcall =>
        not_owns hdigests htargets (h.mem call hcall) (hnot call hcall).symm hdigest howns

/-- The calls of a round on the shelves. -/
theorem pool_calls (hdigests : Digested format.sha256 targets) {round : Round R} {disk : Disk}
    {shelves : Shelves R} (h : round.Allowed format disk targets)
    (hshown : Shown format targets disk shelves) :
    ∃ shelves', Calls format round.calls (round.answers format disk) shelves shelves' ∧
      Shown format targets (round.pool format disk).world shelves' := by
  choose shelves' hdoes hothers hshows using pool_shelf hdigests h hshown
  have hlength : (round.pool format disk).threads.length = round.calls.length :=
    (solo (parts hdigests h.apart h.mem) disk round.schedule).threads
  refine ⟨shelves', ⟨?_, hothers⟩, ⟨fun targetKey digest hmem => hshows targetKey hmem digest, ?_⟩⟩
  · refine List.forall₂_iff_get.mpr ⟨by rw [Round.answers, List.length_map, hlength], ?_⟩
    intro i hi hi'
    obtain ⟨thread, hthread, hdone⟩ :=
      hdoes _ i (round.calls.get ⟨i, hi⟩) (List.getElem?_eq_getElem hi) rfl
    have hanswer : (round.answers format disk).get ⟨i, hi'⟩ = answered thread.rest := by
      obtain ⟨_, rfl⟩ := List.getElem?_eq_some_iff.mp hthread
      simp [Round.answers]
    rw [hanswer]
    exact hdone
  · intro digest hnone
    rw [← hshown.clean digest hnone]
    refine pool_other hdigests h fun call hcall digest' hdigest howns => ?_
    obtain rfl := howns.eq ⟨.record, .inl rfl⟩
    exact hnone _ (h.mem call hcall) hdigest

/-- What reads as a value is synced, so a power loss keeps it. -/
theorem Reads.kept {α : Type} {codec : Codec α} {mine : α → Prop} {file file' : Option File}
    {value : Option α} (h : Reads codec mine file value) (hkept : Kept file file') :
    Reads codec mine file' value := by
  cases hkept with
  | none => exact h
  | synced _ => exact h
  | torn _ hunsynced =>
      cases h with
      | some hsynced _ _ => exact absurd hsynced (by simp [hunsynced])

/-- A power loss brings a shelf back to something that was on it. -/
theorem Shows.lost {targetKey : TargetKey} {digest : Text} {disk : Disk} {shelf : Shelf R}
    (h : Shows format targetKey digest disk shelf) {kept : Text → Option File}
    (hkept : ∀ name, ∃ state ∈ (disk name).states, Kept state (kept name)) :
    ∃ shelf', shelf.Lost shelf' ∧
      Shows format targetKey digest (fun name => ⟨kept name, []⟩) shelf' := by
  obtain ⟨file, hfile, hkeptRecord⟩ := hkept (recordName digest)
  obtain ⟨record, hrecord, hlostRecord⟩ := h.record.lost hfile
  obtain ⟨file', hfile', hkeptTomb⟩ := hkept (tombName digest)
  obtain ⟨tomb, htomb, hlostTomb⟩ := h.tomb.lost hfile'
  exact ⟨⟨⟨record, []⟩, ⟨tomb, []⟩⟩, ⟨hlostRecord, hlostTomb⟩,
    ⟨hrecord.kept hkeptRecord, .nil⟩, ⟨htomb.kept hkeptTomb, .nil⟩⟩

theorem shown_lost (hdigests : Digested format.sha256 targets) {disk : Disk} {shelves : Shelves R}
    (hshown : Shown format targets disk shelves) {kept : Text → Option File}
    (hkept : ∀ name, ∃ state ∈ (disk name).states, Kept state (kept name)) :
    ∃ lost : Shelves R, (∀ targetKey, (shelves targetKey).Lost (lost targetKey)) ∧
      Shown format targets (fun name => ⟨kept name, []⟩) lost := by
  have hlost : ∀ targetKey, ∃ shelf', (shelves targetKey).Lost shelf' ∧
      (targets targetKey → ∀ digest, recoveryKey format.sha256 targetKey = some digest →
        Shows format targetKey digest (fun name => ⟨kept name, []⟩) shelf') := by
    intro targetKey
    by_cases htarget : targets targetKey
    · obtain ⟨digest, hdigest⟩ := hdigests.digest htarget
      obtain ⟨shelf', hlost, hshows⟩ := (hshown.shows _ _ htarget hdigest).lost hkept
      refine ⟨shelf', hlost, fun _ digest' hdigest' => ?_⟩
      obtain rfl := Option.some.inj (hdigest.symm.trans hdigest')
      exact hshows
    · exact ⟨⟨⟨(shelves targetKey).record.now, []⟩, ⟨(shelves targetKey).tomb.now, []⟩⟩,
        ⟨⟨_, List.mem_cons_self, rfl⟩, ⟨_, List.mem_cons_self, rfl⟩⟩,
        fun hmem => absurd hmem htarget⟩
  choose lost hlost hshows using hlost
  refine ⟨lost, hlost, fun targetKey digest hmem => hshows targetKey hmem digest, ?_⟩
  intro digest hnone
  obtain ⟨file, hfile, hkeptFile⟩ := hkept (recordName digest)
  rw [hshown.clean digest hnone, Durable.Cell.states, Durable.Cell.empty,
    List.mem_singleton] at hfile
  subst hfile
  show (⟨kept (recordName digest), []⟩ : Durable.Cell File) = .empty
  generalize kept (recordName digest) = file' at hkeptFile
  cases hkeptFile with
  | none => rfl

/-- A round of the directory is one of the shelves. -/
theorem shown_step (hdigests : Digested format.sha256 targets) {round : Round R} {disk : Disk}
    {shelves : Shelves R} (h : round.Allowed format disk targets)
    (hshown : Shown format targets disk shelves) :
    ∃ called behind, Calls format round.calls (round.answers format disk) shelves called ∧
      round.Behind called behind ∧ Shown format targets (round.step format disk) behind := by
  obtain ⟨called, hcalls, hpool⟩ := pool_calls hdigests h hshown
  unfold Round.Behind Round.step
  cases hloss : round.loss with
  | none => exact ⟨called, called, hcalls, rfl, hpool⟩
  | some kept =>
      obtain ⟨lost, hlost, hback⟩ := shown_lost hdigests hpool (h.kept kept hloss)
      exact ⟨called, lost, hcalls, hlost, hback⟩

end Step

/-! ## An outage -/

section Outage

theorem kept_self (file : Option File) : Kept file file := by
  cases file with
  | none => exact .none
  | some file =>
      cases h : file.synced with
      | true => exact .synced h
      | false => exact .torn file h

/-- The power is lost behind the round, and each name has what it had when it was last synced. -/
def Round.outage (format : Format R) (disk : Disk) (round : Round R) : Round R :=
  { round with loss := some fun name =>
      ((round.pool format disk).world name).past.getLastD ((round.pool format disk).world name).now }

theorem Round.outage_allowed {format : Format R} {disk : Disk} {targets : TargetKey → Prop}
    {round : Round R}
    (hapart : round.calls.Pairwise fun call call' => call.1.target format ≠ call'.1.target format)
    (hmem : ∀ call ∈ round.calls, targets (call.1.target format)) :
    (round.outage format disk).Allowed format disk targets where
  apart := hapart
  mem := hmem
  kept := by
    rintro kept hkept name
    obtain rfl := Option.some.inj hkept
    exact ⟨_, List.getLastD_mem_cons, kept_self _⟩

/-- No access fails. -/
def noFault : Fates := ⟨false, none, false, false, false, false, false⟩

/-- A record and a tombstone are written at once. -/
def writes : Round (SessionRecord plainPydantic) where
  calls := [(.writeRecord firstSession, noFault),
    (.writeTombstone ⟨secondTarget, 3, "console lost"⟩, noFault)]
  schedule := [0, 1, 1, 0, 0, 1, 1, 0, 1, 0]
  loss := none

/-- The tombstone is cleared, and the power is lost before the directory is synced. -/
def clears : Round (SessionRecord plainPydantic) :=
  Round.outage knownFormat (writes.step knownFormat fun _ => .empty)
    { calls := [(.clearTombstone secondTarget 3, noFault)], schedule := [0, 0, 0, 0], loss := none }

theorem writes_allowed (disk : Disk) : writes.Allowed knownFormat disk known where
  apart := by
    rw [writes, List.pairwise_pair]
    exact (by decide : firstTarget ≠ secondTarget)
  mem := by
    intro call hcall
    rcases List.mem_pair.mp hcall with rfl | rfl
    · exact .inl rfl
    · exact .inr rfl
  kept := by
    intro kept hkept
    cases hkept

theorem outage_runs : Runs.Along (Round.step knownFormat)
    (fun round disk => round.Allowed knownFormat disk known) [writes, clears] fun _ => .empty := by
  refine ⟨writes_allowed _, Round.outage_allowed (List.pairwise_singleton _ _) ?_, trivial⟩
  intro call hcall
  rw [List.mem_singleton.mp hcall]
  exact .inr rfl

end Outage

/-! ## Runs -/

section Runs

variable {format : Format R} {targets : TargetKey → Prop} {disk : Disk} {shelves : Shelves R}

/-- The shelves go through the same rounds as the directory, with the same answers. -/
theorem shown_run (hdigests : Digested format.sha256 targets) {rounds : List (Round R)}
    (hallowed : Runs.Along (Round.step format)
      (fun round disk => round.Allowed format disk targets) rounds disk)
    (hshown : Shown format targets disk shelves) :
    ∃ last, Shelves.Goes format rounds (history format rounds disk) shelves last ∧
      Shown format targets (Runs.run (Round.step format) rounds disk) last := by
  induction rounds generalizing disk shelves with
  | nil => exact ⟨shelves, .nil shelves, hshown⟩
  | cons round rounds ih =>
      obtain ⟨called, behind, hcalls, hbehind, hstep⟩ := shown_step hdigests hallowed.1 hshown
      obtain ⟨last, hgoes, hlast⟩ := ih hallowed.2 hstep
      exact ⟨last, .cons hcalls hbehind hgoes, hlast⟩

/-- The names that `glob` finds for the records. -/
structure Globbed (disk : Disk) (names : List Text) : Prop where
  nodup : names.Nodup
  mem : ∀ name, name ∈ names ↔ recordPattern name = true ∧ (disk name).now.isSome = true

/-- The registry reads as what is on the shelves of these targets. -/
structure Answers (format : Format R) (targets : TargetKey → Prop) (disk : Disk)
    (shelves : Shelves R) : Prop where
  record : ∀ targetKey, targets targetKey →
    (format.readRecord targetKey false).run exec disk = (.ok (shelves targetKey).record.now, disk)
  tomb : ∀ targetKey, targets targetKey →
    (format.readTombstone targetKey false).run exec disk = (.ok (shelves targetKey).tomb.now, disk)
  /-- Each record is listed once. -/
  list : ∀ names, Globbed disk names → ∃ records,
    (format.listRecords names).run exec disk = (.ok records, disk) ∧
      (records.map format.target).Nodup ∧
      ∀ record, record ∈ records ↔
        ∃ targetKey, targets targetKey ∧ (shelves targetKey).record.now = some record

/-- A name is that of a record on a shelf. -/
structure Filed (format : Format R) (targets : TargetKey → Prop) (shelves : Shelves R) (name : Text)
    (record : R) : Prop where
  target : targets (format.target record)
  digest : ∃ digest, recoveryKey format.sha256 (format.target record) = some digest ∧
    name = recordName digest
  now : (shelves (format.target record)).record.now = some record

theorem Filed.name_eq {name name' : Text} {record record' : R}
    (h : Filed format targets shelves name record) (h' : Filed format targets shelves name' record')
    (htarget : format.target record = format.target record') : name = name' := by
  obtain ⟨digest, hdigest, rfl⟩ := h.digest
  obtain ⟨digest', hdigest', rfl⟩ := h'.digest
  rw [htarget, hdigest', Option.some.injEq] at hdigest
  rw [hdigest]

theorem Filed.record_eq (hdigests : Digested format.sha256 targets) {name : Text} {record record' : R}
    (h : Filed format targets shelves name record) (h' : Filed format targets shelves name record') :
    record = record' := by
  obtain ⟨digest, hdigest, rfl⟩ := h.digest
  obtain ⟨digest', hdigest', heq⟩ := h'.digest
  obtain rfl := recordName_inj heq
  have htarget := hdigests.eq h.target h'.target hdigest hdigest'
  have hnow := h.now
  rw [htarget, h'.now, Option.some.injEq] at hnow
  exact hnow.symm

/-- What stands under a record's name is the record of a target. -/
theorem Shown.filed (hshown : Shown format targets disk shelves) {name : Text}
    (hname : recordPattern name = true) (hnow : (disk name).now.isSome = true) :
    ∃ record, Filed format targets shelves name record ∧
      ∃ file, (disk name).now = some file ∧ format.records.load file.octets = .ok record := by
  obtain ⟨digest, rfl⟩ := recordPattern_iff.mp hname
  by_cases hmine : ∃ targetKey, targets targetKey ∧ recoveryKey format.sha256 targetKey = some digest
  · obtain ⟨targetKey, htarget, hdigest⟩ := hmine
    have hreads := (hshown.shows targetKey digest htarget hdigest).record.now
    generalize (disk (recordName digest)).now = file at hreads hnow
    generalize hvalue : (shelves targetKey).record.now = value at hreads
    cases hreads with
    | none => cases hnow
    | some hsynced hload hmine =>
        subst hmine
        exact ⟨_, ⟨htarget, ⟨digest, hdigest, rfl⟩, hvalue⟩, _, rfl, hload⟩
  · rw [hshown.clean digest fun targetKey htarget hdigest => hmine ⟨targetKey, htarget, hdigest⟩]
      at hnow
    cases hnow

/-- The record of a target stands under its name. -/
theorem Shown.name (hdigests : Digested format.sha256 targets)
    (hshown : Shown format targets disk shelves) {targetKey : TargetKey} {record : R}
    (htarget : targets targetKey) (hnow : (shelves targetKey).record.now = some record) :
    ∃ name, Filed format targets shelves name record ∧ recordPattern name = true ∧
      (disk name).now.isSome = true := by
  obtain ⟨digest, hdigest⟩ := hdigests.digest htarget
  have hreads := (hshown.shows targetKey digest htarget hdigest).record.now
  rw [hnow] at hreads
  have hsome : (disk (recordName digest)).now.isSome = true := hreads.isSome
  generalize (disk (recordName digest)).now = file at hreads
  cases hreads with
  | some hsynced hload hmine =>
      subst hmine
      exact ⟨recordName digest, ⟨htarget, ⟨digest, hdigest, rfl⟩, hnow⟩,
        recordPattern_iff.mpr ⟨digest, rfl⟩, hsome⟩

/-- The records under these names. -/
theorem Shown.listRecords (hshown : Shown format targets disk shelves) {names : List Text}
    (hnames : ∀ name ∈ names, recordPattern name = true ∧ (disk name).now.isSome = true) :
    ∃ records, (format.listRecords names).run exec disk = (.ok records, disk) ∧
      List.Forall₂ (Filed format targets shelves) names records := by
  induction names with
  | nil => exact ⟨[], rfl, .nil⟩
  | cons name names ih =>
      obtain ⟨hname, hnow⟩ := hnames name List.mem_cons_self
      obtain ⟨record, hfiled, file, hfile, hload⟩ := hshown.filed hname hnow
      obtain ⟨records, hrun, hall⟩ := ih fun n hn => hnames n (List.mem_cons_of_mem _ hn)
      refine ⟨record :: records, ?_, .cons hfiled hall⟩
      simp [Format.listRecords, run_bind, exec, hfile, hload, hrun]

theorem mem_filed {names : List Text} {records : List R}
    (h : List.Forall₂ (Filed format targets shelves) names records) {record : R}
    (hmem : record ∈ records) : ∃ name ∈ names, Filed format targets shelves name record := by
  induction h with
  | nil => cases hmem
  | cons hfiled hall ih =>
      rcases List.mem_cons.mp hmem with rfl | hmem
      · exact ⟨_, List.mem_cons_self, hfiled⟩
      · obtain ⟨name, hname, hfiled'⟩ := ih hmem
        exact ⟨name, List.mem_cons_of_mem _ hname, hfiled'⟩

/-- No two of the records are of one target. -/
theorem nodup_filed {names : List Text} {records : List R} (hnodup : names.Nodup)
    (h : List.Forall₂ (Filed format targets shelves) names records) :
    (records.map format.target).Nodup := by
  induction h with
  | nil => exact List.nodup_nil
  | @cons name record names records hfiled hall ih =>
      rw [List.nodup_cons] at hnodup
      rw [List.map_cons, List.nodup_cons]
      refine ⟨fun hmem => ?_, ih hnodup.2⟩
      obtain ⟨record', hrecord', htarget⟩ := List.mem_map.mp hmem
      obtain ⟨name', hname', hfiled'⟩ := mem_filed hall hrecord'
      rw [hfiled'.name_eq hfiled htarget] at hname'
      exact hnodup.1 hname'

/-- The registry reads as what is on the shelves that the directory shows. -/
theorem Shown.answers (hdigests : Digested format.sha256 targets)
    (hshown : Shown format targets disk shelves) : Answers format targets disk shelves where
  record := by
    intro targetKey htarget
    obtain ⟨digest, hdigest⟩ := hdigests.digest htarget
    rw [readRecord_run hdigest (hshown.shows _ _ htarget hdigest), Bool.and_false]
    rfl
  tomb := by
    intro targetKey htarget
    obtain ⟨digest, hdigest⟩ := hdigests.digest htarget
    exact readTombstone_run hdigest (hshown.shows _ _ htarget hdigest) false
  list := by
    intro names hglobbed
    obtain ⟨records, hrun, hall⟩ := hshown.listRecords fun name => (hglobbed.mem name).mp
    refine ⟨records, hrun, nodup_filed hglobbed.nodup hall, fun record => ⟨fun hmem => ?_, ?_⟩⟩
    · obtain ⟨name, -, hfiled⟩ := mem_filed hall hmem
      exact ⟨format.target record, hfiled.target, hfiled.now⟩
    · rintro ⟨targetKey, htarget, hnow⟩
      obtain ⟨name, hfiled, hpattern, hsome⟩ := hshown.name hdigests htarget hnow
      have hname : name ∈ names := (hglobbed.mem name).mpr ⟨hpattern, hsome⟩
      obtain ⟨i, hi, rfl⟩ := List.getElem_of_mem hname
      have hlt : i < records.length := hall.length_eq ▸ hi
      have hsame : record = records.get ⟨i, hlt⟩ := hfiled.record_eq hdigests (hall.get hi hlt)
      exact hsame ▸ List.get_mem _ _

/-- An empty directory shows empty shelves. -/
theorem shown_empty (hempty : ∀ name, recordPattern name = true ∨ tombPattern name = true →
    disk name = .empty) : Shown format targets disk fun _ => .empty := by
  have hrecord : ∀ digest, disk (recordName digest) = .empty := fun digest =>
    hempty _ (.inl (recordPattern_iff.mpr ⟨digest, rfl⟩))
  have htomb : ∀ digest, disk (tombName digest) = .empty := fun digest =>
    hempty _ (.inr (tombPattern_iff.mpr ⟨digest, rfl⟩))
  refine ⟨fun targetKey digest _ _ => ⟨?_, ?_⟩, fun digest _ => hrecord digest⟩
  · rw [hrecord]
    exact ⟨.none, .nil⟩
  · rw [htomb]
    exact ⟨.none, .nil⟩

/-- From an empty directory, whatever calls at once do and wherever they are cut, the registry answers
and reads as shelves that hold one record and one tombstone for each target. -/
theorem rounds_refine (hdigests : Digested format.sha256 targets)
    (hempty : ∀ name, recordPattern name = true ∨ tombPattern name = true → disk name = .empty)
    (rounds : List (Round R))
    (hallowed : Runs.Along (Round.step format)
      (fun round disk => round.Allowed format disk targets) rounds disk) :
    ∃ last, Shelves.Goes format rounds (history format rounds disk) (fun _ => .empty) last ∧
      Answers format targets (Runs.run (Round.step format) rounds disk) last := by
  obtain ⟨last, hgoes, hshown⟩ := shown_run hdigests hallowed (shown_empty hempty)
  exact ⟨last, hgoes, hshown.answers hdigests⟩

/-- The power is lost while a tombstone is cleared. -/
theorem rounds_refine_outage : ∃ last,
    Shelves.Goes knownFormat [writes, clears] (history knownFormat [writes, clears] fun _ => .empty)
      (fun _ => .empty) last ∧
      Answers knownFormat known
        (Runs.run (Round.step knownFormat) [writes, clears] fun _ => .empty) last :=
  rounds_refine digested_two (fun _ _ => rfl) [writes, clears] outage_runs

/-! ## Durability -/

/-- What no power loss takes away stays on a shelf that no call is for. -/
theorem Shelves.Goes.stays {P : Shelf R → Prop}
    (hlost : ∀ shelf shelf', P shelf → shelf.Lost shelf' → P shelf') {targetKey : TargetKey}
    {rounds : List (Round R)} {answers : List (List Answer)} {last : Shelves R}
    (h : Shelves.Goes format rounds answers shelves last)
    (hother : ∀ round ∈ rounds, ∀ call ∈ round.calls, call.1.target format ≠ targetKey)
    (hP : P (shelves targetKey)) : P (last targetKey) := by
  induction h with
  | nil => exact hP
  | @cons round rounds answers history shelves called behind last hcalls hbehind hrest ih =>
      refine ih (fun r hr => hother r (List.mem_cons_of_mem _ hr)) ?_
      have hcalled : called targetKey = shelves targetKey :=
        hcalls.others targetKey (hother round List.mem_cons_self)
      unfold Round.Behind at hbehind
      split at hbehind
      · exact hlost _ _ (hcalled ▸ hP) (hbehind targetKey)
      · rw [hbehind, hcalled]
        exact hP

/-- A write stands on its shelf for good. -/
def Call.Settled (shelf : Shelf R) : Call R → Prop
  | .writeRecord session => shelf.record = ⟨some session, []⟩
  | .writeTombstone tombstone => shelf.tomb = ⟨some tombstone, []⟩
  | .deleteRecord _ _ | .clearTombstone _ _ => True

/-- A write is read back. -/
def Call.ReadBack (format : Format R) (disk : Disk) : Call R → Prop
  | .writeRecord session =>
      (format.readRecord (format.target session) false).run exec disk = (.ok (some session), disk)
  | .writeTombstone tombstone =>
      (format.readTombstone tombstone.targetKey false).run exec disk =
        (.ok (some tombstone), disk)
  | .deleteRecord _ _ | .clearTombstone _ _ => True

theorem Call.Settled.lost {call : Call R} {shelf shelf' : Shelf R} (h : call.Settled shelf)
    (hlost : shelf.Lost shelf') : call.Settled shelf' := by
  cases call with
  | writeRecord session =>
      have hpast : shelf.record.past = [] := by rw [show shelf.record = _ from h]
      exact (hlost.1.settled hpast).trans h
  | writeTombstone tombstone =>
      have hpast : shelf.tomb.past = [] := by rw [show shelf.tomb = _ from h]
      exact (hlost.2.settled hpast).trans h
  | deleteRecord targetKey expected => trivial
  | clearTombstone targetKey generation => trivial

theorem written_settled {α : Type} {cell : Durable.Cell α} {value : α}
    {payload : Option (List Nat)} {fates : Fates} (hok : (written cell value payload fates).1 = .ok ())
    (hsync : fates.syncDir = false) :
    (written cell value payload fates).2 = ⟨some value, []⟩ := by
  unfold written at *
  cases hanswer : writeAnswer payload fates with
  | error e =>
      rw [hanswer] at hok
      cases hok
  | ok done =>
      rw [hsync]
      rfl

/-- A write that is acknowledged with its directory synced stands for good. -/
theorem Call.Does.settled {call : Call R} {fates : Fates} {shelf shelf' : Shelf R}
    (h : call.Does format fates shelf (some (.ok ())) shelf') (hsync : fates.syncDir = false) :
    call.Settled shelf' := by
  generalize hanswer : some (Except.ok ()) = answer at h
  cases h with
  | done =>
      have hok := (Option.some.inj hanswer).symm
      cases call with
      | writeRecord session => exact written_settled hok hsync
      | writeTombstone tombstone => exact written_settled hok hsync
      | deleteRecord targetKey expected => trivial
      | clearTombstone targetKey generation => trivial
  | before => cases hanswer
  | behind syncDir => cases hanswer

theorem Answers.readBack (h : Answers format targets disk shelves) {call : Call R}
    (htarget : targets (call.target format)) (hsettled : call.Settled (shelves (call.target format))) :
    call.ReadBack format disk := by
  cases call with
  | writeRecord session =>
      have hnow : (shelves (format.target session)).record = ⟨some session, []⟩ := hsettled
      have hread := h.record (format.target session) htarget
      rw [hnow] at hread
      exact hread
  | writeTombstone tombstone =>
      have hnow : (shelves tombstone.targetKey).tomb = ⟨some tombstone, []⟩ := hsettled
      have hread := h.tomb tombstone.targetKey htarget
      rw [hnow] at hread
      exact hread
  | deleteRecord targetKey expected => trivial
  | clearTombstone targetKey generation => trivial

/-- A write that is acknowledged with its directory synced is read back for good: whatever calls at once
do for other targets later, wherever they are cut, and whenever the power is lost. -/
theorem write_kept (hdigests : Digested format.sha256 targets)
    (hempty : ∀ name, recordPattern name = true ∨ tombPattern name = true → disk name = .empty)
    {before after : List (Round R)} {round : Round R}
    (hallowed : Runs.Along (Round.step format)
      (fun round disk => round.Allowed format disk targets) (before ++ round :: after) disk)
    {i : Nat} {call : Call R} {fates : Fates} (hi : round.calls[i]? = some (call, fates))
    (hok : (round.answers format (Runs.run (Round.step format) before disk))[i]? =
      some (some (.ok ())))
    (hsync : fates.syncDir = false)
    (hother : ∀ later ∈ after, ∀ other ∈ later.calls, other.1.target format ≠ call.target format) :
    call.ReadBack format (Runs.run (Round.step format) (before ++ round :: after) disk) := by
  obtain ⟨hbefore, hround, hafter⟩ := (Runs.along_append _ _ _).mp hallowed
  obtain ⟨shelves, -, hshown⟩ := shown_run hdigests hbefore (shown_empty hempty)
  obtain ⟨called, behind, hcalls, hbehind, hstep⟩ := shown_step hdigests hround hshown
  obtain ⟨last, hgoes, hlast⟩ := shown_run hdigests hafter hstep
  rw [Runs.run_append, Runs.run_cons]
  -- the call's own shelf, behind its round and at the end
  have hsettled : call.Settled (called (call.target format)) := by
    obtain ⟨hlength, hdoes⟩ := List.forall₂_iff_get.mp hcalls.does
    obtain ⟨hlt, hget⟩ := List.getElem?_eq_some_iff.mp hi
    obtain ⟨hlt', hget'⟩ := List.getElem?_eq_some_iff.mp hok
    have hdone := hdoes i hlt hlt'
    rw [List.get_eq_getElem, List.get_eq_getElem, hget, hget'] at hdone
    exact hdone.settled hsync
  have hbehind' : call.Settled (behind (call.target format)) := by
    unfold Round.Behind at hbehind
    split at hbehind
    · exact hsettled.lost (hbehind _)
    · rw [hbehind]
      exact hsettled
  have hend : call.Settled (last (call.target format)) :=
    hgoes.stays (P := call.Settled) (fun _ _ h hlost => h.lost hlost) hother hbehind'
  exact (hlast.answers hdigests).readBack (hround.mem _ (List.mem_of_getElem? hi)) hend

/-- The record that was written at the same time is still read. -/
theorem write_kept_outage : (Call.writeRecord firstSession).ReadBack knownFormat
    (Runs.run (Round.step knownFormat) ([] ++ writes :: [clears]) fun _ => .empty) := by
  refine write_kept digested_two (fun _ _ => rfl) outage_runs (i := 0) rfl rfl rfl ?_
  intro later hlater other hother
  rw [List.mem_singleton.mp hlater] at hother
  rw [List.mem_singleton.mp hother]
  exact (by decide : secondTarget ≠ firstTarget)

end Runs

end Kdive.Registry

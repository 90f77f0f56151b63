import Kdive.Artifacts.Store
import Kdive.Lib.CriticalSection
import Mathlib.Data.List.Induction

/-!
# Updates of one manifest

Any number of callers update the manifest of a run, interleaved call by call.  The
manifest lock makes their sections run one after the other (`CriticalSection.served`),
so the manifest is what the updates make of it in the order in which they took the
lock.

*One call.*  `program_wp` says what a call leaves when it runs alone: a call that
returns has applied its update, a call that raises has not, unless it was the release of
the lock that raised.  `Updates` says of each system call that it leaves the stored
manifest or replaces it by the updated one.

*Deviations.*  An append leaves the planned steps alone, so one that is made under the
name of a planned step leaves the two statuses of the step apart.  A call whose lock
cannot be closed or removed raises although its update is stored.
-/

namespace Kdive.Artifacts

open Program Interleaving CriticalSection

variable {Json : Type}

/-! ## The lock -/

/-- The call creates the manifest lock. -/
def takesManifest : DiskOp Json → Bool
  | .createLock _ .manifest => true
  | _ => false

/-- The call removes the manifest lock. -/
def freesManifest : DiskOp Json → Bool
  | .unlinkLock _ .manifest => true
  | _ => false

theorem takesManifest_iff {o : DiskOp Json} :
    takesManifest o = true ↔ ∃ fault, o = .createLock fault .manifest := by
  constructor
  · intro h
    match o, h with
    | .createLock fault .manifest, _ => exact ⟨fault, rfl⟩
  · rintro ⟨fault, rfl⟩
    rfl

theorem freesManifest_iff {o : DiskOp Json} :
    freesManifest o = true ↔ ∃ fault, o = .unlinkLock fault .manifest := by
  constructor
  · intro h
    match o, h with
    | .unlinkLock fault .manifest, _ => exact ⟨fault, rfl⟩
  · rintro ⟨fault, rfl⟩
    rfl

/-- The manifest lock as a lock of the files. -/
def manifestFile : Lock (@diskExec Json) where
  held := fun d => d.locks .manifest
  takes := takesManifest
  frees := freesManifest
  taken := by
    intro o d r htakes hok
    obtain ⟨fault, rfl⟩ := takesManifest_iff.mp htakes
    obtain ⟨e, heq⟩ | ⟨hfree, heq⟩ := createLock_cases fault .manifest d
    · rw [heq] at hok
      cases hok
    · exact ⟨hfree, by simp [heq]⟩
  refused := by
    intro o d e htakes herr
    obtain ⟨fault, rfl⟩ := takesManifest_iff.mp htakes
    obtain ⟨e', heq⟩ | ⟨_, heq⟩ := createLock_cases fault .manifest d
    · rw [heq]
    · rw [heq] at herr
      cases herr
  freed := by
    intro o d r hfrees hok
    obtain ⟨fault, rfl⟩ := freesManifest_iff.mp hfrees
    obtain ⟨e', heq⟩ | ⟨_, heq⟩ := unlinkLock_cases fault .manifest d
    · rw [heq] at hok
      cases hok
    · simp [heq]
  kept := by
    intro o d htakes hstays hheld
    rcases o.keepsLocks_or with hkeeps | ⟨fault, file, rfl⟩ | ⟨fault, file, rfl⟩
    · rwa [diskExec_locks hkeeps]
    · obtain ⟨e', heq⟩ | ⟨_, heq⟩ := createLock_cases fault file d
      · rwa [heq]
      · rw [heq, setLock_locks]
        by_cases hfile : file = .manifest
        · simp [hfile]
        · rwa [Function.update_of_ne (Ne.symm hfile)]
    · obtain ⟨e', heq⟩ | ⟨_, heq⟩ := unlinkLock_cases fault file d
      · rwa [heq]
      · rw [heq, setLock_locks]
        by_cases hfile : file = .manifest
        · subst hfile
          exact absurd (congrArg Prod.fst heq) (hstays () rfl)
        · rwa [Function.update_of_ne (Ne.symm hfile)]

/-! ## The sections -/

/-- A call that touches no lock file. -/
theorem quiet_of_keepsLocks {o : DiskOp Json} (h : o.KeepsLocks) :
    takesManifest o = false ∧ freesManifest o = false := by
  cases o with
  | createLock fault file => exact h.elim
  | unlinkLock fault file => exact h.elim
  | _ => exact ⟨rfl, rfl⟩

theorem loadManifest_calls (run : Run) (fault : Option Raised) :
    (loadManifest run fault : StoreRun Json _).Calls DiskOp.KeepsLocks := by
  rw [loadManifest, Prog.perform_attempt_bind]
  refine ⟨trivial, fun r => ?_⟩
  cases r <;> trivial

theorem writeManifest_calls (run : Run) (faults : UpdateFaults) (m : RunManifest Json) :
    (writeManifest run faults m).Calls DiskOp.KeepsLocks := by
  refine .rescue ?_ fun e => ?_
  · exact .bind (.call trivial) fun _ => .bind (.call trivial) fun _ =>
      .bind (.call trivial) fun _ => .call trivial
  · rw [discardTemp]
    split
    · rw [Prog.perform_attempt_bind]
      refine ⟨trivial, fun r => ?_⟩
      match r with
      | .ok _ => trivial
      | .error (.os _) => trivial
      | .error .fileExists | .error .fileNotFound | .error (.value _) | .error (.validation _)
      | .error (.manifestState _) | .error (.other _) => trivial
    · trivial

variable [DecidableEq Json]

theorem stepResultSection_calls (run : Run) (faults : UpdateFaults) (result : StepResult Json)
    (replaceSucceeded append : Bool) :
    (stepResultSection run faults result replaceSucceeded append).Calls DiskOp.KeepsLocks := by
  refine .bind (loadManifest_calls run faults.read) fun m => .bind ?_ fun updated =>
    .bind (.when fun _ => writeManifest_calls run faults updated) fun _ => trivial
  split
  · split <;> trivial
  · trivial

omit [DecidableEq Json] in
theorem bootAttemptSection_calls (run : Run) (faults : UpdateFaults) (attempt : BootAttempt Json)
    (bootResult : StepResult Json) :
    (bootAttemptSection run faults attempt bootResult).Calls DiskOp.KeepsLocks :=
  .bind (loadManifest_calls run faults.read) fun _ =>
    .bind (writeManifest_calls run faults _) fun _ => trivial

section Waits

omit [DecidableEq Json]

/-- At the end of a section the lock is removed, and nothing is done after that. -/
theorem inside_releaseLock {α : Type} (faults : LockFaults) (result : Except Raised α) :
    manifestFile.Inside
      (do releaseLock .manifest faults; Prog.ofExcept result : StoreRun Json α) := by
  refine ⟨rfl, fun r => ?_⟩
  cases r with
  | error e => trivial
  | ok u =>
      refine ⟨rfl, fun r => ?_⟩
      have hresult : Lock.Ended (Prog.ofExcept result : StoreRun Json α) :=
        Lock.ended_ofExcept result
      match r with
      | .ok _ => exact hresult
      | .error .fileNotFound => exact .of_ended hresult
      | .error .fileExists | .error (.os _) | .error (.validation _) | .error (.value _)
      | .error (.manifestState _) | .error (.other _) => exact .of_ended trivial

/-- A locked program takes the lock first. -/
theorem waits_manifestLock {α : Type} (faults : LockFaults) {body : StoreRun Json α}
    (hbody : body.Calls DiskOp.KeepsLocks) :
    manifestFile.Waits (manifestLock faults body).void := by
  rw [manifestLock, fileLock, Prog.perform_attempt_bind]
  refine ⟨rfl, fun e => ?_, fun r => ?_⟩
  · cases e <;> exact ⟨_, rfl⟩
  · refine Lock.Inside.andThen (.bind ?_ fun result => inside_releaseLock faults result)
      fun _ => trivial
    refine Prog.calls_attempt.mpr (.bind (.call ⟨rfl, rfl⟩) fun _ => ?_)
    exact hbody.mono fun o => quiet_of_keepsLocks

end Waits

/-! ## One call alone -/

/-- A system call of an update leaves the stored manifest or applies the update to it. -/
def Updates (u : Update Json) (o : DiskOp Json) (d : Disk Json) : Prop :=
  (diskExec o d).2.stored = d.stored ∨
    ∃ m m', d.stored = some m ∧ u.apply m = .ok m' ∧ (diskExec o d).2.stored = some m'

section Alone

omit [DecidableEq Json]

variable {u : Update Json} {m m' : RunManifest Json} {d : Disk Json}

/-- A call that leaves the manifest file. -/
theorem watching_quiet {o : DiskOp Json} {Q : Except Raised (DiskResp o) → Disk Json → Prop}
    (hQ : ∀ r d', d'.stored = d.stored → Q r d') (h : o.KeepsManifest := by trivial) :
    watching diskExec (Updates u) o Q d :=
  have hkept := stored_of_manifest (diskExec_manifest h d)
  ⟨.inl hkept, hQ _ _ hkept⟩

/-- The handler raises and leaves the stored manifest. -/
theorem discardTemp_wp (run : Run) (faults : UpdateFaults) (e : Raised)
    {Q : Except Raised Unit → Disk Json → Prop}
    (hQ : ∀ e' d', d'.stored = d.stored → Q (.error e') d') :
    (discardTemp run faults e).wp (watching diskExec (Updates u)) Q d := by
  rw [discardTemp]
  split
  · rw [Prog.perform_attempt_bind]
    refine watching_quiet fun r d' hkept => ?_
    match r with
    | .ok _ => exact hQ _ d' hkept
    | .error (.os _) => exact hQ _ d' hkept
    | .error .fileExists | .error .fileNotFound | .error (.value _) | .error (.validation _)
    | .error (.manifestState _) | .error (.other _) => exact hQ _ d' hkept
  · exact hQ e d rfl

/-- `_write_manifest` stores the manifest, or raises and leaves the one that was stored. -/
theorem writeManifest_wp (run : Run) (faults : UpdateFaults) (hd : d.stored = some m)
    (happly : u.apply m = .ok m') :
    (writeManifest run faults m').wp (watching diskExec (Updates u))
      (fun r d' => match r with
        | .ok _ => d'.stored = some m'
        | .error _ => d'.stored = some m) d := by
  have hfails : ∀ e d', d'.stored = some m →
      (discardTemp run faults e).wp (watching diskExec (Updates u))
        (fun r d' => match r with
          | .ok _ => d'.stored = some m'
          | .error _ => d'.stored = some m) d' :=
    fun e d' hd' => discardTemp_wp run faults e fun _ _ hkept => hkept.trans hd'
  rw [writeManifest, Prog.wp_rescue, Prog.wp_bind, Prog.wp_perform]
  refine watching_quiet fun r d₁ hd₁ => ?_
  cases r with
  | error e => exact hfails e d₁ (hd₁.trans hd)
  | ok _ =>
      dsimp only
      rw [Prog.wp_bind, Prog.wp_perform]
      refine watching_quiet fun r d₂ hd₂ => ?_
      cases r with
      | error e => exact hfails e d₂ (hd₂.trans (hd₁.trans hd))
      | ok _ =>
          dsimp only
          have hstored := hd₂.trans (hd₁.trans hd)
          rw [Prog.wp_bind, Prog.wp_perform]
          refine ⟨.inl (stored_of_manifest (diskExec_manifest (by trivial) d₂)), ?_⟩
          -- the temporary file now holds the manifest
          cases faults.writeTemp with
          | some text => exact hfails _ d₂ hstored
          | none =>
              dsimp only [diskExec, orRaise]
              rw [Prog.wp_perform]
              cases faults.replaceTemp with
              | some text => exact ⟨.inl rfl, hfails _ _ hstored⟩
              | none => exact ⟨.inr ⟨m, m', hstored, happly, rfl⟩, rfl⟩

/-- `load_manifest` returns the stored manifest or raises. -/
theorem loadManifest_wp (run : Run) (fault : Option Raised)
    {Q : Except Raised (RunManifest Json) → Disk Json → Prop}
    (hQ : ∀ m, d.stored = some m → Q (.ok m) d) (herr : ∀ e, Q (.error e) d) :
    (loadManifest run fault).wp (watching diskExec (Updates u)) Q d := by
  rw [loadManifest, Prog.perform_attempt_bind]
  refine ⟨.inl (stored_of_manifest (diskExec_manifest (by trivial) d)), ?_⟩
  cases fault with
  | some e => exact herr _
  | none =>
      rcases hfile : d.manifest with _ | _ | m
      · simpa [diskExec, hfile] using herr _
      · simpa [diskExec, hfile] using herr _
      · have hstored : d.stored = some m := by simp [Disk.stored, hfile]
        simpa [diskExec, hfile] using hQ m hstored

/-- The release of a lock leaves the manifest, and raises only if closing or removing the
file does. -/
theorem releaseLock_wp (file : LockFile) (faults : LockFaults)
    {Q : Except Raised Unit → Disk Json → Prop} (hok : ∀ d', d'.stored = d.stored → Q (.ok ()) d')
    (herr : faults.ReleaseRaises → ∀ e d', d'.stored = d.stored → Q (.error e) d') :
    (releaseLock file faults).wp (watching diskExec (Updates u)) Q d := by
  rw [releaseLock, Prog.wp_bind, Prog.wp_perform]
  cases hclose : faults.close with
  | some text =>
      have hraises : faults.ReleaseRaises := .inl (by simp [hclose])
      exact ⟨.inl rfl, herr hraises _ _ rfl⟩
  | none =>
      refine ⟨.inl rfl, ?_⟩
      dsimp only [diskExec, orRaise]
      rw [Prog.perform_attempt_bind]
      cases hunlink : faults.unlink with
      | some text =>
          have hraises : faults.ReleaseRaises := .inr (by simp [hunlink])
          exact ⟨.inl rfl, herr hraises _ _ rfl⟩
      | none =>
          cases hlock : d.locks file with
          | true =>
              have hfreed := hok (d.setLock file false) rfl
              simpa [diskExec, orRaise, hlock, watching, Updates, Disk.stored] using hfreed
          | false => simpa [diskExec, orRaise, hlock, watching, Updates, Disk.stored] using hok d rfl

end Alone

/-- What the section of an update comes to: it returns the updated manifest and has
stored it, or it raises and has left the stored one. -/
def SectionOutcome (u : Update Json) (before : Option (RunManifest Json)) :
    Except Raised (RunManifest Json) → Disk Json → Prop
  | .ok m', d => (∃ m, before = some m ∧ u.apply m = .ok m') ∧ d.stored = some m'
  | .error _, d => d.stored = before

theorem stepResultSection_wp (run : Run) (faults : UpdateFaults) (result : StepResult Json)
    (replaceSucceeded append : Bool) (d : Disk Json) :
    (stepResultSection run faults result replaceSucceeded append).wp
      (watching diskExec (Updates (.step result replaceSucceeded append)))
      (SectionOutcome (.step result replaceSucceeded append) d.stored) d := by
  rw [stepResultSection, Prog.wp_bind]
  refine loadManifest_wp run faults.read (fun m hstored => ?_) fun e => rfl
  have hwrites : ∀ m', (Update.step result replaceSucceeded append).apply m = .ok m' →
      (do Prog.when (m' ≠ m) (writeManifest run faults m'); return m' : StoreRun Json _).wp
        (watching diskExec (Updates (.step result replaceSucceeded append)))
        (SectionOutcome (.step result replaceSucceeded append) d.stored) d := by
    intro m' happly
    rw [Prog.wp_bind, Prog.wp_when]
    refine ⟨fun _ => ?_, fun hsame => ?_⟩
    · refine Prog.wp_mono (watching_mono _) (fun r d' hr => ?_)
        (writeManifest_wp run faults hstored happly)
      cases r with
      | ok _ => exact ⟨⟨m, hstored, happly⟩, hr⟩
      | error e => exact hr.trans hstored.symm
    · -- nothing changes
      have heq : m' = m := not_not.mp hsame
      exact ⟨⟨m, hstored, happly⟩, heq ▸ hstored⟩
  dsimp only
  rw [Prog.wp_bind]
  split
  · next happend =>
      cases happly : m.appendStepResult result with
      | error text => exact rfl
      | ok m' => exact hwrites m' (by rw [Update.apply, if_pos happend, happly])
  · next happend => exact hwrites _ (by rw [Update.apply, if_neg happend])

omit [DecidableEq Json] in
theorem bootAttemptSection_wp (run : Run) (faults : UpdateFaults) (attempt : BootAttempt Json)
    (bootResult : StepResult Json) (d : Disk Json) :
    (bootAttemptSection run faults attempt bootResult).wp
      (watching diskExec (Updates (.boot attempt bootResult)))
      (SectionOutcome (.boot attempt bootResult) d.stored) d := by
  rw [bootAttemptSection, Prog.wp_bind]
  refine loadManifest_wp run faults.read (fun m hstored => ?_) fun e => rfl
  dsimp only
  rw [Prog.wp_bind]
  refine Prog.wp_mono (watching_mono _) (fun r d' hr => ?_)
    (writeManifest_wp (u := .boot attempt bootResult) run faults hstored rfl)
  cases r with
  | ok _ => exact ⟨⟨m, hstored, rfl⟩, hr⟩
  | error e => exact hr.trans hstored.symm

/-- What a call comes to.  Only the release of the lock can raise after the update was
stored. -/
def CallOutcome (c : Call Json) (before : Option (RunManifest Json))
    (r : Except Raised (RunManifest Json)) (d : Disk Json) : Prop :=
  SectionOutcome c.update before r d ∨
    (c.faults.lock.ReleaseRaises ∧ (∃ e, r = .error e) ∧
      ∃ m m', before = some m ∧ c.update.apply m = .ok m' ∧ d.stored = some m')

omit [DecidableEq Json] in
theorem manifestLock_wp {c : Call Json} {body : StoreRun Json (RunManifest Json)}
    (hbody : ∀ d, body.wp (watching diskExec (Updates c.update))
      (SectionOutcome c.update d.stored) d) (d : Disk Json) :
    (manifestLock c.faults.lock body).wp (watching diskExec (Updates c.update))
      (CallOutcome c d.stored) d := by
  rw [manifestLock, fileLock, Prog.perform_attempt_bind]
  refine watching_quiet fun r d₁ hd₁ => ?_
  cases r with
  | error e => cases e <;> exact .inl hd₁
  | ok _ =>
      -- the section and then the release, with what the section came to
      have hrelease : ∀ r d₂, SectionOutcome c.update d.stored r d₂ →
          (do releaseLock .manifest c.faults.lock; Prog.ofExcept r : StoreRun Json _).wp
            (watching diskExec (Updates c.update)) (CallOutcome c d.stored) d₂ := by
        intro r d₂ hr
        rw [Prog.wp_bind]
        refine releaseLock_wp .manifest c.faults.lock (fun d₃ hd₃ => ?_) fun hraises e d₃ hd₃ => ?_
        · dsimp only
          rw [Prog.wp_ofExcept]
          cases r with
          | ok m' => exact .inl ⟨hr.1, hd₃.trans hr.2⟩
          | error e => exact .inl (hd₃.trans hr)
        · cases r with
          | ok m' =>
              obtain ⟨⟨m, hm, happly⟩, hstored⟩ := hr
              exact .inr ⟨hraises, ⟨e, rfl⟩, m, m', hm, happly, hd₃.trans hstored⟩
          | error e' => exact .inl (hd₃.trans hr)
      dsimp only
      rw [Prog.wp_bind, Prog.wp_attempt, Prog.wp_bind, Prog.wp_perform]
      refine watching_quiet fun r d₂ hd₂ => ?_
      have hsame := hd₂.trans hd₁
      cases r with
      | error e => exact hrelease (.error e) d₂ hsame
      | ok _ =>
          refine Prog.wp_mono (watching_mono _) (fun r d₃ hr => hrelease r d₃ ?_) (hbody d₂)
          rwa [hsame] at hr

/-- What a call comes to when it runs alone. -/
theorem program_wp (c : Call Json) (d : Disk Json) :
    c.program.wp (watching diskExec (Updates c.update)) (CallOutcome c d.stored) d := by
  obtain ⟨run, update, faults⟩ := c
  cases update with
  | step result replaceSucceeded append =>
      dsimp only [Call.program, recordStepResult]
      split
      · exact .inl rfl
      · exact manifestLock_wp (c := ⟨run, .step result replaceSucceeded append, faults⟩)
          (stepResultSection_wp run faults result replaceSucceeded append) d
  | boot attempt bootResult =>
      exact manifestLock_wp (c := ⟨run, .boot attempt bootResult, faults⟩)
        (bootAttemptSection_wp run faults attempt bootResult) d

theorem program_waits (c : Call Json) : manifestFile.Waits c.program.void := by
  obtain ⟨run, update, faults⟩ := c
  cases update with
  | step result replaceSucceeded append =>
      dsimp only [Call.program, recordStepResult]
      split
      · trivial
      · exact waits_manifestLock _ (stepResultSection_calls ..)
  | boot attempt bootResult => exact waits_manifestLock _ (bootAttemptSection_calls ..)

/-! ## Any number of callers -/

/-- The callers of a run, at some point. -/
abbrev Callers (Json : Type) : Type :=
  @Pool (DiskOp Json) DiskResp Raised (Disk Json) (Call Json)

/-- The call returned. -/
def Succeeded (P : Callers Json) (i : Nat) : Prop := ∃ c, P.threads[i]? = some ⟨c, .ret ()⟩

/-- The calls `order`, one after the other, take a manifest to another one.  A call that
returned has applied its update.  A call that raised has left the manifest, unless it was
the release of its lock that raised. -/
inductive Replay (P : Callers Json) (calls : List (Call Json)) (m : RunManifest Json) :
    List Nat → RunManifest Json → Prop
  | nil : Replay P calls m [] m
  | applied {before : List Nat} {i : Nat} {c : Call Json} {m₁ m₂ : RunManifest Json} :
      Replay P calls m before m₁ → calls[i]? = some c → c.update.apply m₁ = .ok m₂ →
      Succeeded P i ∨ c.faults.lock.ReleaseRaises → Replay P calls m (before ++ [i]) m₂
  | left {before : List Nat} {i : Nat} {m₁ : RunManifest Json} :
      Replay P calls m before m₁ → ¬ Succeeded P i → Replay P calls m (before ++ [i]) m₁

/-- What an update keeps of a manifest. -/
structure Update.Keeps (u : Update Json) (m m' : RunManifest Json) : Prop where
  /-- A succeeded result is only replaced by an update that asks for it. -/
  succeeded : ∀ name existing, m.result? name = some existing → existing.status = .succeeded →
    m'.result? name = some existing ∨ u.Replaces ∧ name = u.result.stepName
  /-- An append replaces no result. -/
  results : u.Appends → ∀ name existing, m.result? name = some existing →
    m'.result? name = some existing
  /-- Attempts to boot are only appended. -/
  bootAttempts : m.bootAttempts <+: m'.bootAttempts

omit [DecidableEq Json] in
theorem Update.keeps_of_apply {u : Update Json} {m m' : RunManifest Json}
    (h : u.apply m = .ok m') : u.Keeps m m' where
  succeeded := by
    intro name existing hexisting hsucceeded
    by_cases hname : name = u.result.stepName
    · by_cases hreplaces : u.Replaces
      · exact .inr ⟨hreplaces, hname⟩
      · exact .inl (apply_succeeded h hexisting hsucceeded hreplaces)
    · exact .inl ((apply_other h hname).trans hexisting)
  results := fun happends _ _ hexisting => apply_appends h hexisting happends
  bootAttempts := apply_bootAttempts h

/-- The callers at the end of a schedule. -/
def callersAt (calls : List (Call Json)) (d : Disk Json) (schedule : List Nat) : Callers Json :=
  machine.run schedule (machine.pool d calls)

/-- The calls that took the manifest lock, in this order. -/
def lockOrder (calls : List (Call Json)) (d : Disk Json) (schedule : List Nat) : List Nat :=
  Lock.entries (M := machine) manifestFile schedule (machine.pool d calls)

section Runs

variable {calls : List (Call Json)} {d : Disk Json} {m : RunManifest Json} {schedule : List Nat}

/-- A call that runs alone, its value dropped. -/
theorem body_outcome (c : Call Json) (d : Disk Json) :
    ∃ r, ((machine.body c).run diskExec d).1 = r.map (fun _ => ()) ∧
      CallOutcome c d.stored r ((machine.body c).run diskExec d).2 := by
  have hvoid : (machine.body c).wp (watching diskExec (Updates c.update))
      (fun r d' => ∃ r', r = r'.map (fun _ => ()) ∧ CallOutcome c d.stored r' d') d := by
    refine (Prog.wp_void c.program).mpr ?_
    exact Prog.wp_mono (watching_mono _) (fun r d' hr => ⟨r, rfl, hr⟩) (program_wp c d)
  exact watching_run hvoid

/-- One section more: the manifest is as it was or updated, as the call ended. -/
theorem replay_section {P : Callers Json} {before : List Nat} {i : Nat} {c : Call Json}
    {m₁ : RunManifest Json} (hreplay : Replay P calls m before m₁) (hc : calls[i]? = some c)
    (hd : d.stored = some m₁)
    (hend : P.threads[i]? = some ⟨c, Prog.ofExcept ((machine.body c).run diskExec d).1⟩) :
    ∃ m₂, ((machine.body c).run diskExec d).2.stored = some m₂ ∧
      Replay P calls m (before ++ [i]) m₂ := by
  obtain ⟨r, hr, houtcome⟩ := body_outcome c d
  rw [hr] at hend
  have hraised : ∀ e, r = .error e → ¬ Succeeded P i := by
    rintro e rfl ⟨c', hret⟩
    rw [hend] at hret
    cases hret
  rcases houtcome with houtcome | ⟨hraises, _, m₀, m₂, hbefore, happly, hstored⟩
  · cases r with
    | ok m' =>
        obtain ⟨⟨m₀, hbefore, happly⟩, hstored⟩ := houtcome
        obtain rfl := Option.some.inj (hd.symm.trans hbefore)
        exact ⟨m', hstored, hreplay.applied hc happly (.inl ⟨c, hend⟩)⟩
    | error e => exact ⟨m₁, houtcome.trans hd, hreplay.left (hraised e rfl)⟩
  · obtain rfl := Option.some.inj (hd.symm.trans hbefore)
    exact ⟨m₂, hstored, hreplay.applied hc happly (.inr hraises)⟩

/-- The sections that ended, one after the other. -/
theorem replay_past {P : Callers Json} {past : List Nat} {current : Option Nat}
    (hserved : manifestFile.Served (M := machine) calls d past current P)
    (hd : d.stored = some m) : ∀ before since, past = before ++ since →
      ∃ m', (serve machine calls before d).stored = some m' ∧ Replay P calls m before m' := by
  intro before
  induction before using List.reverseRecOn with
  | nil => exact fun _ _ => ⟨m, hd, .nil⟩
  | append_singleton before i ih =>
      intro since hpast
      rw [List.append_assoc] at hpast
      obtain ⟨m₁, hstored, hreplay⟩ := ih _ hpast
      obtain ⟨c, hc, hend⟩ := hserved.left before i since hpast
      rw [serve_concat hc]
      exact replay_section hreplay hc hstored hend

/-- Once all callers are done, the manifest is what the calls made of it in lock order. -/
theorem replay_done (hd : d.stored = some m) (calls : List (Call Json)) (schedule : List Nat)
    (hdone : ∀ t ∈ (callersAt calls d schedule).threads, t.Done) :
    ∃ m', (callersAt calls d schedule).world.stored = some m' ∧
      Replay (callersAt calls d schedule) calls m (lockOrder calls d schedule) m' := by
  obtain ⟨past, current, horder, hserved⟩ := Lock.served (M := machine) manifestFile
    (fun _ _ => rfl) calls (fun c _ => program_waits c) d schedule
  obtain ⟨m₁, hstored, hreplay⟩ := replay_past hserved hd past [] (List.append_nil _).symm
  rw [lockOrder, ← horder]
  cases current with
  | none =>
      rw [Option.toList_none, List.append_nil]
      refine ⟨m₁, ?_, hreplay⟩
      rw [callersAt, (hserved.free rfl).1]
      exact hstored
  | some i =>
      obtain ⟨_, c, rest, hc, hrest, hleads, _⟩ := hserved.inside i rfl
      have hended : Lock.Ended rest := by
        have hthread := hdone _ (List.mem_of_getElem? hrest)
        cases rest with
        | ret a => trivial
        | raise e => trivial
        | call o next => exact hthread
      obtain ⟨hresult, hworld⟩ := Lock.Ended.eq_ofExcept diskExec hended
        (machine.run schedule (machine.pool d calls)).world
      have hrun : (rest.run diskExec _) = (machine.body c).run diskExec _ := hleads.run
      rw [hrun] at hresult hworld
      rw [hresult] at hrest
      obtain ⟨m₂, hstored₂, hreplay₂⟩ := replay_section hreplay hc hstored hrest
      refine ⟨m₂, ?_, hreplay₂⟩
      rw [callersAt, ← hworld]
      exact hstored₂

/-- A call that returned had the lock. -/
theorem mem_lockOrder {i : Nat} (h : Succeeded (callersAt calls d schedule) i) :
    i ∈ lockOrder calls d schedule := by
  obtain ⟨past, current, horder, hserved⟩ := Lock.served (M := machine) manifestFile
    (fun _ _ => rfl) calls (fun c _ => program_waits c) d schedule
  rw [lockOrder, ← horder]
  by_contra hmem
  rw [List.mem_append, not_or] at hmem
  obtain ⟨c, hret⟩ := h
  have hlt : i < calls.length := hserved.size ▸ (List.getElem?_eq_some_iff.mp hret).1
  obtain ⟨rest, hrest, hstart⟩ := hserved.out i calls[i] (List.getElem?_eq_getElem hlt) hmem.1
    fun hcur => hmem.2 (by simp [hcur])
  rw [callersAt] at hret
  rw [hret, Option.some.injEq, Thread.mk.injEq] at hrest
  obtain ⟨-, rfl⟩ := hrest
  rcases hstart with hstart | ⟨e, hstart⟩
  · have hwaits := program_waits calls[i]
    rw [show calls[i].program.void = .ret () from hstart.symm] at hwaits
    exact hwaits
  · cases hstart

/-- A step of a call leaves the stored manifest or applies the update of the call. -/
theorem step_updates (calls : List (Call Json)) (d : Disk Json) (schedule : List Nat) (i : Nat) :
    (callersAt calls d (schedule ++ [i])).world.stored =
        (callersAt calls d schedule).world.stored ∨
      ∃ c m₁ m₂, calls[i]? = some c ∧ (callersAt calls d schedule).world.stored = some m₁ ∧
        c.update.apply m₁ = .ok m₂ ∧
        (callersAt calls d (schedule ++ [i])).world.stored = some m₂ := by
  have hlast : callersAt calls d (schedule ++ [i]) = machine.step i (callersAt calls d schedule) :=
    Machine.run_append ..
  rw [hlast]
  cases Machine.step_cases machine i (callersAt calls d schedule) with
  | inl hidle => exact .inl (by rw [hidle.2])
  | inr hmoved =>
      obtain ⟨c, o, next, _, _, hnext, hstep⟩ := hmoved
      obtain ⟨hc, hupdates⟩ := Lock.meets (M := machine) manifestFile (fun _ _ => rfl)
        calls (fun c _ => program_waits c) (C := fun c => Updates c.update)
        (fun c _ d' => (Prog.wp_void c.program).mpr
          (Prog.wp_mono (watching_mono _) (fun _ _ _ => trivial) (program_wp c d'))) d schedule hnext
      rw [hstep]
      rcases hupdates with hsame | ⟨m₁, m₂, hm₁, happly, hm₂⟩
      · exact .inl hsame
      · exact .inr ⟨c, m₁, m₂, hc, hm₁, happly, hm₂⟩

/-- The planned steps keep agreeing with their results. -/
theorem stored_agrees (hd : d.stored = some m) (hm : m.Agrees)
    (hplanned : ∀ c ∈ calls, c.update.Appends → c.update.result.stepName ∉ m.plannedNames)
    (schedule : List Nat) : ∃ m', (callersAt calls d schedule).world.stored = some m' ∧
      m'.Agrees ∧ m'.plannedNames = m.plannedNames := by
  induction schedule using List.reverseRecOn with
  | nil => exact ⟨m, hd, hm, rfl⟩
  | append_singleton schedule i ih =>
      obtain ⟨m', hm', hagrees, hnames⟩ := ih
      rcases step_updates calls d schedule i with hsame | ⟨c, m₁, m₂, hc, hm₁, happly, hm₂⟩
      · exact ⟨m', hsame.trans hm', hagrees, hnames⟩
      · obtain rfl := Option.some.inj (hm₁.symm.trans hm')
        refine ⟨m₂, hm₂, Update.apply_agrees happly hagrees fun happends => ?_,
          (Update.apply_plannedNames happly).trans hnames⟩
        rw [hnames]
        exact hplanned c (List.mem_of_getElem? hc) happends

end Runs

/-- What holds of the calls of any number of callers. -/
structure Linearized (calls : List (Call Json)) (d : Disk Json) (m : RunManifest Json)
    (schedule : List Nat) : Prop where
  /-- Once all are done, the manifest is what they made of it one after the other. -/
  replay : (∀ t ∈ (callersAt calls d schedule).threads, t.Done) →
    ∃ m', (callersAt calls d schedule).world.stored = some m' ∧
      Replay (callersAt calls d schedule) calls m (lockOrder calls d schedule) m'
  /-- A call that returned is one of them. -/
  entered : ∀ i, Succeeded (callersAt calls d schedule) i → i ∈ lockOrder calls d schedule
  /-- Each step leaves the manifest, or applies the update of the call that makes it and
  keeps what that update has to keep. -/
  steps : ∀ i, (callersAt calls d (schedule ++ [i])).world.stored =
      (callersAt calls d schedule).world.stored ∨
    ∃ c m₁ m₂, calls[i]? = some c ∧ (callersAt calls d schedule).world.stored = some m₁ ∧
      c.update.apply m₁ = .ok m₂ ∧ c.update.Keeps m₁ m₂ ∧
      (callersAt calls d (schedule ++ [i])).world.stored = some m₂
  /-- Planned steps have the status of their result, unless a result is appended under the
  name of one. -/
  agrees : m.Agrees →
    (∀ c ∈ calls, c.update.Appends → c.update.result.stepName ∉ m.plannedNames) →
    ∃ m', (callersAt calls d schedule).world.stored = some m' ∧ m'.Agrees

/-- However the calls of any number of callers are interleaved, they take effect one after
the other in lock order. -/
theorem updates_linearized (calls : List (Call Json)) (d : Disk Json) (m : RunManifest Json)
    (hd : d.stored = some m) (schedule : List Nat) : Linearized calls d m schedule where
  replay := replay_done hd calls schedule
  entered := fun _ => mem_lockOrder
  steps := by
    intro i
    rcases step_updates calls d schedule i with hsame | ⟨c, m₁, m₂, hc, hm₁, happly, hm₂⟩
    · exact .inl hsame
    · exact .inr ⟨c, m₁, m₂, hc, hm₁, happly, Update.keeps_of_apply happly, hm₂⟩
  agrees := by
    intro hm hplanned
    obtain ⟨m', hm', hagrees, _⟩ := stored_agrees hd hm hplanned schedule
    exact ⟨m', hm', hagrees⟩

/-- A run to update. -/
def sampleRun : Run := ⟨"run-1", "/artifacts/run-1"⟩

/-- A build that succeeded. -/
def buildSucceeded : StepResult Unit := ⟨"build", .succeeded, "kernel built", [], []⟩

/-- An update of the `build` step. -/
def recordBuild : Call Unit := { run := sampleRun, update := .step buildSucceeded false false }

/-- An append under the name of the `build` step. -/
def appendBuild : Call Unit := { run := sampleRun, update := .step buildSucceeded false true }

/-- An update of the `build` step whose lock file cannot be closed. -/
def unclosableBuild : Call Unit :=
  { recordBuild with faults := { lock := { close := some "Input/output error" } } }

/-- Of two callers that race one is refused, and the other's result is stored. -/
theorem updates_linearized_race :
    Linearized [recordBuild, appendBuild] Disk.fresh .create ([0, 1] ++ List.replicate 9 0) ∧
      lockOrder [recordBuild, appendBuild] Disk.fresh ([0, 1] ++ List.replicate 9 0) = [0] ∧
      (callersAt [recordBuild, appendBuild] Disk.fresh ([0, 1] ++ List.replicate 9 0)).world.stored =
        some ((RunManifest.create : RunManifest Unit).withStepResult buildSucceeded false) :=
  ⟨updates_linearized _ _ _ rfl _, by decide +kernel, by decide +kernel⟩

/-- A call that returned can leave a planned step and its result apart, and a call that
raised can have stored its update. -/
theorem append_disagrees_and_raise_stores :
    (Succeeded (callersAt [appendBuild] Disk.fresh (List.replicate 9 0)) 0 ∧
      ∃ m, (callersAt [appendBuild] Disk.fresh (List.replicate 9 0)).world.stored = some m ∧
        ¬ m.Agrees) ∧
      (∃ c e, (callersAt [unclosableBuild] Disk.fresh (List.replicate 9 0)).threads[0]? =
        some ⟨c, .raise e⟩) ∧
      (callersAt [unclosableBuild] Disk.fresh (List.replicate 9 0)).world.stored ≠
        (Disk.fresh : Disk Unit).stored := by
  refine ⟨⟨⟨appendBuild, rfl⟩, { RunManifest.create with
    stepResults := [("build", buildSucceeded)] }, by decide +kernel, by decide +kernel⟩,
    ⟨unclosableBuild, .os "Input/output error", rfl⟩, by decide +kernel⟩

end Kdive.Artifacts

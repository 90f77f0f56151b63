import Mathlib.Data.List.Nodup
import Kdive.Artifacts.Manifest
import Kdive.Lib.Association
import Kdive.Lib.Runs

/-!
# Watchdog knobs

A policy relaxes the lockup detectors of a target before an interactive stop.  The first
`relax` of a session claims a capture, reads each in-band knob into it and writes the relaxed
value.  A repeated `relax` writes again and reads nothing.  `restore` pops the capture and puts
the captured values back.

*Calls.*  Any number of calls on one policy take turns.  Claiming and popping a capture is under
the lock of the policy, and every access to a knob or to a capture is a step of its own.  A read
that finds nothing and a write that fails are outcomes of their step.

*History.*  What the guarantee is about is recorded beside the policy: the values a session
found when it claimed its capture, the knobs its relaxes changed, those that are not put back
yet, and the captured values that were read from a knob the session itself had relaxed.
-/

namespace Kdive.Watchdog

open Runs

/-! ## Knobs -/

inductive WatchdogArch where
  | x86_64
  | ppc64le
deriving DecidableEq, Repr

inductive KnobOutcome where
  | relaxed
  | absent
  | skipped
  | writeFailed
deriving DecidableEq, Repr

/-- One watchdog control. -/
structure WatchdogKnob where
  name : String
  relaxedValue : String
  outOfBand : Bool
deriving DecidableEq, Repr

/-- `_GENERIC_LOCKUP_KNOBS` -/
def genericLockupKnobs : List WatchdogKnob :=
  [⟨"kernel.nmi_watchdog", "0", false⟩,
   ⟨"kernel.watchdog", "0", false⟩,
   ⟨"kernel.watchdog_thresh", "0", false⟩,
   ⟨"kernel.softlockup_panic", "0", false⟩,
   ⟨"kernel.hardlockup_panic", "0", false⟩]

def knobsForArch : WatchdogArch → List WatchdogKnob
  | .ppc64le => genericLockupKnobs ++ [⟨"phyp_partition_watchdog", "disabled", true⟩]
  | .x86_64 => genericLockupKnobs

/-- The knobs of a policy. -/
def policyKnobs (arch : WatchdogArch) (knobs : Option (List WatchdogKnob)) : List WatchdogKnob :=
  knobs.getD (knobsForArch arch)

/-- The names of the knobs that are reached over the channel. -/
def inBand (knobs : List WatchdogKnob) : List String :=
  (knobs.filter fun knob => !knob.outOfBand).map WatchdogKnob.name

section InBand

variable {knob : WatchdogKnob} {knobs : List WatchdogKnob}

@[simp] theorem inBand_nil : inBand [] = [] := rfl

@[simp] theorem inBand_cons_outOfBand (h : knob.outOfBand = true) :
    inBand (knob :: knobs) = inBand knobs := by
  simp [inBand, h]

@[simp] theorem inBand_cons (h : knob.outOfBand = false) :
    inBand (knob :: knobs) = knob.name :: inBand knobs := by
  simp [inBand, h]

theorem inBand_reverse : inBand knobs.reverse = (inBand knobs).reverse := by
  simp [inBand]

/-- The knobs of an architecture have names of their own. -/
theorem nodup_knobsForArch (arch : WatchdogArch) : (inBand (knobsForArch arch)).Nodup := by
  cases arch <;> decide

end InBand

/-! ## Captures and calls -/

/-- `_CapturedState` -/
structure CapturedState where
  prior : String → Option String
  relaxed : String → Option Bool

/-- A capture that was just claimed. -/
def CapturedState.empty : CapturedState := ⟨fun _ => none, fun _ => none⟩

/-- How a call ends. -/
inductive Reply where
  | relaxed (outcomes : List (String × KnobOutcome))
  | restored (restored : List (String × Bool))
  | noop
  | valueError
  | keyError
deriving DecidableEq, Repr

/-- `RestoreReport.failures`.  `WatchdogRestoreStep.teardown` raises if there are any. -/
def failures (restored : List (String × Bool)) : List (String × Bool) :=
  restored.filter fun item => !item.2

/-- Where a call stands, with the knobs that are left. -/
inductive Phase where
  | idle
  /-- `_first_relax` -/
  | owning (session : String) (capture : Nat) (knobs : List WatchdogKnob)
      (outcomes : List (String × KnobOutcome))
  /-- The knob is captured and not written yet. -/
  | relaxing (session : String) (capture : Nat) (knob : WatchdogKnob)
      (knobs : List WatchdogKnob) (outcomes : List (String × KnobOutcome))
  /-- The knob is written and its outcome is not captured yet. -/
  | marking (session : String) (capture : Nat) (knob : WatchdogKnob) (knobs : List WatchdogKnob)
      (outcomes : List (String × KnobOutcome)) (ok : Bool)
  /-- `_reissue_relax` -/
  | reissuing (session : String) (capture : Nat) (knobs : List WatchdogKnob)
      (outcomes : List (String × KnobOutcome))
  | restoring (session : String) (capture : Nat) (knobs : List WatchdogKnob)
      (restored : List (String × Bool))
  /-- The captured value is about to be put back. -/
  | putting (session : String) (capture : Nat) (knob : WatchdogKnob) (prior : String)
      (knobs : List WatchdogKnob) (restored : List (String × Bool))
  | done (reply : Reply)

/-- What happens next in a call: it begins, or makes its next access.  `ok` says whether a read
finds a value and whether a write succeeds. -/
inductive Event where
  | relax (session : Option String)
  | restore (session : Option String)
  | next (ok : Bool)

/-- A step of a call. -/
structure Move where
  caller : Nat
  event : Event

/-- What is recorded of a run. -/
structure History where
  /-- The values when the session claimed its capture. -/
  baseline : String → String → String
  /-- The knobs a relax of the session changed since then. -/
  changed : String → String → Bool
  /-- Those that were not put back since they were last relaxed. -/
  unrestored : String → String → Bool
  /-- The knobs whose first write failed, by capture. -/
  refused : Nat → String → Bool
  /-- The captured values that were read from a knob the session had relaxed. -/
  stale : Nat → String → Bool
  /-- Such a value was written. -/
  staleWrite : Bool

/-- The knobs of the target, the policy and its calls. -/
structure World where
  values : String → String
  table : String → Option Nat
  captures : Nat → CapturedState
  nextCapture : Nat
  calls : Nat → Phase
  history : History

/-- A policy that was not used yet. -/
def World.start (values : String → String) : World where
  values := values
  table := fun _ => none
  captures := fun _ => .empty
  nextCapture := 0
  calls := fun _ => .idle
  history :=
    { baseline := fun _ => values
      changed := fun _ _ => false
      unrestored := fun _ _ => false
      refused := fun _ _ => false
      stale := fun _ _ => false
      staleWrite := false }

/-! ## Steps -/

/-- `table[key][name] = value` -/
def setAt {α β : Type} [DecidableEq α] (table : α → String → β) (key : α) (name : String)
    (value : β) : α → String → β :=
  fun key' name' => if key' = key ∧ name' = name then value else table key' name'

namespace World

variable (w : World)

/-- A call goes on to a phase. -/
def goto (t : Nat) (phase : Phase) : World :=
  { w with calls := Function.update w.calls t phase }

/-- A session claims a new capture. -/
def claim (s : String) : World :=
  { w with
    table := Function.update w.table s (some w.nextCapture)
    captures := Function.update w.captures w.nextCapture .empty
    nextCapture := w.nextCapture + 1
    history := { w.history with
      baseline := Function.update w.history.baseline s w.values
      changed := Function.update w.history.changed s fun _ => false
      refused := Function.update w.history.refused w.nextCapture fun _ => false
      stale := Function.update w.history.stale w.nextCapture fun _ => false } }

/-- `capture.prior[name] = prior`, for the value that was just read. -/
def capture (s : String) (c : Nat) (name : String) : World :=
  { w with
    captures := Function.update w.captures c
      { w.captures c with prior := Function.update (w.captures c).prior name (some (w.values name)) }
    history := { w.history with
      stale := setAt w.history.stale c name (w.history.unrestored s name) } }

/-- A relaxed value is written. -/
def relaxKnob (s : String) (knob : WatchdogKnob) : World :=
  { w with
    values := Function.update w.values knob.name knob.relaxedValue
    history := { w.history with
      changed := setAt w.history.changed s knob.name true
      unrestored := setAt w.history.unrestored s knob.name true } }

/-- The first write to a knob fails. -/
def refuse (c : Nat) (name : String) : World :=
  { w with history := { w.history with refused := setAt w.history.refused c name true } }

/-- `capture.relaxed[name] = ok` -/
def mark (c : Nat) (name : String) (ok : Bool) : World :=
  { w with
    captures := Function.update w.captures c
      { w.captures c with relaxed := Function.update (w.captures c).relaxed name (some ok) } }

/-- `self._captures.pop(session, None)` -/
def pop (s : String) : World := { w with table := Function.update w.table s none }

/-- The captured value of a knob is written. -/
def putBack (s : String) (name prior : String) : World :=
  { w with
    values := Function.update w.values name prior
    history := { w.history with unrestored := setAt w.history.unrestored s name false } }

/-- A value from a capture is about to be written. -/
def useCaptured (c : Nat) (name : String) : World :=
  { w with history := { w.history with
      staleWrite := w.history.staleWrite || w.history.stale c name } }

end World

/-- `relax`, up to the end of its critical section. -/
def beginRelax (knobs : List WatchdogKnob) (w : World) (t : Nat) : Option String → World
  | none => w.goto t (.done .valueError)
  | some s =>
      match w.table s with
      | none => (w.claim s).goto t (.owning s w.nextCapture knobs [])
      | some c => w.goto t (.reissuing s c knobs [])

/-- `restore`, up to the end of its critical section. -/
def beginRestore (knobs : List WatchdogKnob) (w : World) (t : Nat) : Option String → World
  | none => w.goto t (.done .noop)
  | some s =>
      match w.table s with
      | none => w.goto t (.done .noop)
      | some c => (w.pop s).goto t (.restoring s c knobs.reverse [])

/-- The next access of a call. -/
def advance (w : World) (t : Nat) (ok : Bool) : Phase → World
  | .owning _ _ [] outcomes => w.goto t (.done (.relaxed outcomes))
  | .owning s c (knob :: knobs) outcomes =>
      if knob.outOfBand then
        w.goto t (.owning s c knobs (Artifacts.setItem knob.name .skipped outcomes))
      else if ok then (w.capture s c knob.name).goto t (.relaxing s c knob knobs outcomes)
      else w.goto t (.owning s c knobs (Artifacts.setItem knob.name .absent outcomes))
  | .relaxing s c knob knobs outcomes =>
      (if ok then w.relaxKnob s knob else w.refuse c knob.name).goto t
        (.marking s c knob knobs outcomes ok)
  | .marking s c knob knobs outcomes written =>
      (w.mark c knob.name written).goto t (.owning s c knobs (Artifacts.setItem knob.name
        (if written then .relaxed else .writeFailed) outcomes))
  | .reissuing _ _ [] outcomes => w.goto t (.done (.relaxed outcomes))
  | .reissuing s c (knob :: knobs) outcomes =>
      if knob.outOfBand then
        w.goto t (.reissuing s c knobs (Artifacts.setItem knob.name .skipped outcomes))
      else if (w.captures c).prior knob.name = none then
        w.goto t (.reissuing s c knobs (Artifacts.setItem knob.name .absent outcomes))
      else
        (if ok then w.relaxKnob s knob else w).goto t (.reissuing s c knobs
          (Artifacts.setItem knob.name (if ok then .relaxed else .writeFailed) outcomes))
  | .restoring _ _ [] restored => w.goto t (.done (.restored restored))
  | .restoring s c (knob :: knobs) restored =>
      if knob.outOfBand ∨ (w.captures c).relaxed knob.name ≠ some true then
        w.goto t (.restoring s c knobs restored)
      else
        match (w.captures c).prior knob.name with
        | none => w.goto t (.done .keyError)
        | some prior => w.goto t (.putting s c knob prior knobs restored)
  | .putting s c knob prior knobs restored =>
      (if ok then (w.useCaptured c knob.name).putBack s knob.name prior
        else w.useCaptured c knob.name).goto t
        (.restoring s c knobs (Artifacts.setItem knob.name ok restored))
  | .idle | .done _ => w

/-- One step.  A call that is elsewhere is left alone. -/
def step (knobs : List WatchdogKnob) (move : Move) (w : World) : World :=
  match w.calls move.caller, move.event with
  | .idle, .relax session => beginRelax knobs w move.caller session
  | .idle, .restore session => beginRestore knobs w move.caller session
  | .idle, .next _ => w
  | phase, .next ok => advance w move.caller ok phase
  | _, _ => w

/-! ## The condition -/

/-- A relax of the session is in progress. -/
def Phase.Relaxes (s : String) : Phase → Prop
  | .owning s' _ _ _ | .relaxing s' _ _ _ _ | .marking s' _ _ _ _ _ | .reissuing s' _ _ _ => s' = s
  | _ => False

/-- A restore of the session is in progress. -/
def Phase.Restores (s : String) : Phase → Prop
  | .restoring s' _ _ _ | .putting s' _ _ _ _ _ => s' = s
  | _ => False

/-- A call of another session counts on the value of a knob: its first relax has not read it
yet, or its restore has put it back. -/
def Phase.CountsOn (w : World) (s name : String) : Phase → Prop
  | .owning s' _ knobs _ | .relaxing s' _ _ knobs _ | .marking s' _ _ knobs _ _ =>
      s' ≠ s ∧ name ∈ inBand knobs
  | .restoring s' _ knobs _ =>
      s' ≠ s ∧ w.history.changed s' name = true ∧ name ∉ inBand knobs
  | .putting s' _ knob _ knobs _ =>
      s' ≠ s ∧ w.history.changed s' name = true ∧ name ∉ inBand knobs ∧ name ≠ knob.name
  | _ => False

/-- No call of another session counts on the value of a knob. -/
def World.Undisturbed (w : World) (s name : String) : Prop :=
  ∀ t, ¬ (w.calls t).CountsOn w s name

/-- A first relax begins when no restore of the session is in progress and every knob it relaxed
is put back.  A restore begins when no relax of the session is in progress.  No relax succeeds on
a knob that the first relax failed on, or the other way round.  No write disturbs another
session. -/
def Disciplined (move : Move) (w : World) : Prop :=
  match w.calls move.caller, move.event with
  | .idle, .relax (some s) => w.table s = none →
      (∀ t, ¬ (w.calls t).Restores s) ∧ ∀ name, w.history.unrestored s name = false
  | .idle, .restore (some s) => ∀ t, ¬ (w.calls t).Relaxes s
  | .relaxing s _ knob _ _, .next true => w.Undisturbed s knob.name
  | .relaxing s _ knob _ _, .next false => w.history.changed s knob.name = false
  | .reissuing s c (knob :: _) _, .next true =>
      knob.outOfBand = false → (w.captures c).prior knob.name ≠ none →
        w.history.refused c knob.name = false ∧ w.Undisturbed s knob.name
  | .putting s _ knob _ _ _, .next true => w.Undisturbed s knob.name
  | _, _ => True

/-! ## The invariant -/

/-- A call is about to write a knob of a capture, or to capture the outcome. -/
def Phase.Pending (c : Nat) (name : String) : Phase → Prop
  | .relaxing _ c' knob _ _ | .marking _ c' knob _ _ _ => c' = c ∧ knob.name = name
  | _ => False

/-- A call is the first relax of a capture. -/
def Phase.Owns (c : Nat) : Phase → Prop
  | .owning _ c' _ _ | .relaxing _ c' _ _ _ | .marking _ c' _ _ _ _ => c' = c
  | _ => False

/-- What a first relax has not reached is as its session found it. -/
structure Untouched (knobs : List WatchdogKnob) (w : World) (s : String) (c : Nat)
    (names : List String) : Prop where
  table : w.table s = some c
  nodup : names.Nodup
  subset : ∀ name ∈ names, name ∈ inBand knobs
  prior : ∀ name ∈ names, (w.captures c).prior name = none
  unchanged : ∀ name ∈ names, w.history.changed s name = false
  unrefused : ∀ name ∈ names, w.history.refused c name = false
  values : ∀ name ∈ names, w.values name = w.history.baseline s name

/-- What a first relax knows of the knob it is at. -/
structure AtKnob (knobs : List WatchdogKnob) (w : World) (s : String) (c : Nat)
    (name : String) (names : List String) : Prop where
  notMem : name ∉ names
  mem : name ∈ inBand knobs
  prior : (w.captures c).prior name = some (w.history.baseline s name)

/-- What a restore that has the names left knows: what it has passed is back, or its write
failed. -/
structure PuttingBack (w : World) (s : String) (c : Nat) (names : List String)
    (restored : List (String × Bool)) : Prop where
  popped : w.table s = none
  fresh : c < w.nextCapture
  free : ∀ s', w.table s' ≠ some c
  nodup : names.Nodup
  prior : ∀ name, (w.captures c).prior name = none ∨
    (w.captures c).prior name = some (w.history.baseline s name)
  captured : ∀ name, w.history.changed s name = true → (w.captures c).relaxed name = some true
  back : ∀ name, w.history.changed s name = true → name ∉ names →
    w.values name = w.history.baseline s name ∨ restored.lookup name = some false

/-- What a call knows in its phase. -/
def Knows (knobs : List WatchdogKnob) (w : World) : Phase → Prop
  | .owning s c left _ => Untouched knobs w s c (inBand left)
  | .relaxing s c knob left _ =>
      Untouched knobs w s c (inBand left) ∧ AtKnob knobs w s c knob.name (inBand left) ∧
        w.history.refused c knob.name = false
  | .marking s c knob left _ ok =>
      Untouched knobs w s c (inBand left) ∧ AtKnob knobs w s c knob.name (inBand left) ∧
        w.history.refused c knob.name = !ok
  | .reissuing s c _ _ => w.table s = some c
  | .restoring s c left restored => PuttingBack w s c (inBand left) restored
  | .putting s c knob prior left restored =>
      PuttingBack w s c (knob.name :: inBand left) restored ∧
        prior = w.history.baseline s knob.name
  | .idle | .done _ => True

/-- What a capture in the table says of its session. -/
structure Live (w : World) (s : String) (c : Nat) : Prop where
  fresh : c < w.nextCapture
  prior : ∀ name, (w.captures c).prior name = none ∨
    (w.captures c).prior name = some (w.history.baseline s name)
  changed : ∀ name, w.history.changed s name = true →
    (w.captures c).prior name ≠ none ∧ w.history.refused c name = false

/-- What holds of the captures and of the history. -/
structure Sound (knobs : List WatchdogKnob) (w : World) : Prop where
  live : ∀ s c, w.table s = some c → Live w s c
  injective : ∀ s s' c, w.table s = some c → w.table s' = some c → s = s'
  named : ∀ c name, (w.captures c).prior name ≠ none → name ∈ inBand knobs
  unrestored : ∀ s name, w.history.unrestored s name = true → w.history.changed s name = true
  stale : ∀ c name, w.history.stale c name = false
  staleWrite : w.history.staleWrite = false

/-- What every step keeps. -/
structure Inv (knobs : List WatchdogKnob) (w : World) : Prop where
  sound : Sound knobs w
  settled : ∀ c name, (w.captures c).prior name ≠ none →
    (w.captures c).relaxed name = some (!w.history.refused c name) ∨
      ∃ t, (w.calls t).Pending c name
  knows : ∀ t, Knows knobs w (w.calls t)
  owner : ∀ t t' c, (w.calls t).Owns c → (w.calls t').Owns c → t = t'
  restorer : ∀ t t' s, (w.calls t).Restores s → (w.calls t').Restores s → t = t'

section Frames

variable {knobs : List WatchdogKnob} {w : World} {s s' : String} {c c' : Nat}
  {names : List String} {name : String} {knob : WatchdogKnob} {restored : List (String × Bool)}

theorem Untouched.claim (h : Untouched knobs w s' c' names) (hs : s' ≠ s)
    (hc : c' < w.nextCapture) : Untouched knobs (w.claim s) s' c' names := by
  have hne : c' ≠ w.nextCapture := Nat.ne_of_lt hc
  constructor
  case table => simpa [World.claim, hs] using h.table
  case nodup => exact h.nodup
  case subset => exact h.subset
  case prior => simpa [World.claim, hne] using h.prior
  case unchanged => simpa [World.claim, hs] using h.unchanged
  case unrefused => simpa [World.claim, hne] using h.unrefused
  case values => simpa [World.claim, hs] using h.values

theorem Untouched.capture (h : Untouched knobs w s' c' names) (hn : c' = c → name ∉ names) :
    Untouched knobs (w.capture s c name) s' c' names := by
  refine { h with prior := ?_ }
  intro n hmem
  by_cases hc : c' = c
  · subst hc
    have hne : n ≠ name := fun heq => hn rfl (heq ▸ hmem)
    simpa [World.capture, hne] using h.prior n hmem
  · simpa [World.capture, hc] using h.prior n hmem

theorem Untouched.relaxKnob (h : Untouched knobs w s' c' names) (hn : knob.name ∉ names) :
    Untouched knobs (w.relaxKnob s knob) s' c' names := by
  have hne : ∀ n ∈ names, n ≠ knob.name := fun n hmem heq => hn (heq ▸ hmem)
  refine { h with unchanged := ?_, values := ?_ }
  · intro n hmem
    simpa [World.relaxKnob, setAt, hne n hmem] using h.unchanged n hmem
  · intro n hmem
    simpa [World.relaxKnob, hne n hmem] using h.values n hmem

theorem Untouched.refuse (h : Untouched knobs w s' c' names) (hn : c' = c → name ∉ names) :
    Untouched knobs (w.refuse c name) s' c' names := by
  refine { h with unrefused := ?_ }
  intro n hmem
  have hne : ¬ (c' = c ∧ n = name) := fun ⟨hc, heq⟩ => hn hc (heq ▸ hmem)
  simpa [World.refuse, setAt, hne] using h.unrefused n hmem

theorem Untouched.mark (h : Untouched knobs w s' c' names) {ok : Bool} :
    Untouched knobs (w.mark c name ok) s' c' names := by
  refine { h with prior := ?_ }
  intro n hmem
  by_cases hc : c' = c
  · subst hc
    simpa [World.mark] using h.prior n hmem
  · simpa [World.mark, hc] using h.prior n hmem

theorem Untouched.pop (h : Untouched knobs w s' c' names) (hs : s' ≠ s) :
    Untouched knobs (w.pop s) s' c' names :=
  { h with table := by simpa [World.pop, hs] using h.table }

theorem Untouched.putBack (h : Untouched knobs w s' c' names) (hn : name ∉ names) {prior : String} :
    Untouched knobs (w.putBack s name prior) s' c' names := by
  refine { h with values := ?_ }
  intro n hmem
  have hne : n ≠ name := fun heq => hn (heq ▸ hmem)
  simpa [World.putBack, hne] using h.values n hmem

theorem AtKnob.claim (h : AtKnob knobs w s' c' name names) (hs : s' ≠ s)
    (hc : c' < w.nextCapture) : AtKnob knobs (w.claim s) s' c' name names := by
  have hne : c' ≠ w.nextCapture := Nat.ne_of_lt hc
  exact { h with prior := by simpa [World.claim, hne, hs] using h.prior }

theorem AtKnob.capture {name' : String} (h : AtKnob knobs w s' c' name' names) (hc : c' ≠ c) :
    AtKnob knobs (w.capture s c name) s' c' name' names :=
  { h with prior := by simpa [World.capture, hc] using h.prior }

theorem AtKnob.mark {name' : String} (h : AtKnob knobs w s' c' name' names) (hc : c' ≠ c)
    {ok : Bool} : AtKnob knobs (w.mark c name ok) s' c' name' names :=
  { h with prior := by simpa [World.mark, hc] using h.prior }

theorem PuttingBack.claim (h : PuttingBack w s' c' names restored) (hs : s' ≠ s) :
    PuttingBack (w.claim s) s' c' names restored := by
  have hne : c' ≠ w.nextCapture := Nat.ne_of_lt h.fresh
  constructor
  case popped => simpa [World.claim, hs] using h.popped
  case fresh => exact Nat.lt_succ_of_lt h.fresh
  case free =>
    intro s''
    by_cases heq : s'' = s
    · subst heq
      simpa [World.claim] using hne.symm
    · simpa [World.claim, heq] using h.free s''
  case nodup => exact h.nodup
  case prior => simpa [World.claim, hs, hne] using h.prior
  case captured => simpa [World.claim, hs, hne] using h.captured
  case back => simpa [World.claim, hs] using h.back

theorem PuttingBack.capture (h : PuttingBack w s' c' names restored) (hc : c' ≠ c) :
    PuttingBack (w.capture s c name) s' c' names restored :=
  { h with
    prior := by simpa [World.capture, hc] using h.prior
    captured := by simpa [World.capture, hc] using h.captured }

theorem PuttingBack.mark (h : PuttingBack w s' c' names restored) (hc : c' ≠ c) {ok : Bool} :
    PuttingBack (w.mark c name ok) s' c' names restored :=
  { h with
    prior := by simpa [World.mark, hc] using h.prior
    captured := by simpa [World.mark, hc] using h.captured }

theorem PuttingBack.relaxKnob (h : PuttingBack w s' c' names restored) (hs : s' ≠ s)
    (hn : w.history.changed s' knob.name = true → knob.name ∈ names) :
    PuttingBack (w.relaxKnob s knob) s' c' names restored := by
  refine { h with captured := ?_, back := ?_ }
  · simpa [World.relaxKnob, setAt, hs] using h.captured
  · intro n hchanged hmem
    replace hchanged : w.history.changed s' n = true := by
      simpa [World.relaxKnob, setAt, hs] using hchanged
    have hne : n ≠ knob.name := fun heq => hmem (heq ▸ hn (heq ▸ hchanged))
    simpa [World.relaxKnob, hne] using h.back n hchanged hmem

theorem PuttingBack.pop (h : PuttingBack w s' c' names restored) :
    PuttingBack (w.pop s) s' c' names restored := by
  refine { h with popped := ?_, free := ?_ }
  · by_cases heq : s' = s
    · simp [World.pop, heq]
    · simpa [World.pop, heq] using h.popped
  · intro s''
    by_cases heq : s'' = s
    · simp [World.pop, heq]
    · simpa [World.pop, heq] using h.free s''

theorem PuttingBack.putBack (h : PuttingBack w s' c' names restored)
    (hn : w.history.changed s' name = true → name ∈ names) {prior : String} :
    PuttingBack (w.putBack s name prior) s' c' names restored := by
  refine { h with back := ?_ }
  intro n hchanged hmem
  have hne : n ≠ name := fun heq => hmem (heq ▸ hn (heq ▸ hchanged))
  simpa [World.putBack, hne] using h.back n hchanged hmem

theorem Live.claim (h : Live w s' c') (hs : s' ≠ s) : Live (w.claim s) s' c' := by
  have hne : c' ≠ w.nextCapture := Nat.ne_of_lt h.fresh
  constructor
  case fresh => exact Nat.lt_succ_of_lt h.fresh
  case prior => simpa [World.claim, hs, hne] using h.prior
  case changed => simpa [World.claim, hs, hne] using h.changed

theorem Live.capture (h : Live w s' c') (hown : c' = c → s' = s)
    (hvalue : w.values name = w.history.baseline s name) :
    Live (w.capture s c name) s' c' := by
  by_cases hc : c' = c
  · obtain rfl := hown hc
    subst hc
    refine ⟨h.fresh, ?_, ?_⟩
    · intro n
      by_cases hn : n = name
      · subst hn
        exact .inr (by simpa [World.capture] using hvalue)
      · simpa [World.capture, hn] using h.prior n
    · intro n hchanged
      refine ⟨?_, (h.changed n hchanged).2⟩
      by_cases hn : n = name
      · simp [World.capture, hn]
      · simpa [World.capture, hn] using (h.changed n hchanged).1
  · refine ⟨h.fresh, ?_, ?_⟩
    · simpa [World.capture, hc] using h.prior
    · simpa [World.capture, hc] using h.changed

theorem Live.relaxKnob (h : Live w s' c')
    (hown : s' = s → (w.captures c').prior knob.name ≠ none ∧
      w.history.refused c' knob.name = false) : Live (w.relaxKnob s knob) s' c' := by
  refine ⟨h.fresh, h.prior, ?_⟩
  intro n hchanged
  by_cases hn : s' = s ∧ n = knob.name
  · obtain ⟨rfl, rfl⟩ := hn
    exact hown rfl
  · exact h.changed n (by simpa [World.relaxKnob, setAt, hn] using hchanged)

theorem Live.refuse (h : Live w s' c') (hown : c' = c → w.history.changed s' name = false) :
    Live (w.refuse c name) s' c' := by
  refine ⟨h.fresh, h.prior, ?_⟩
  intro n hchanged
  have hn : ¬ (c' = c ∧ n = name) := by
    rintro ⟨hc, rfl⟩
    rw [show w.history.changed s' n = true from hchanged] at hown
    cases hown hc
  exact ⟨(h.changed n hchanged).1, by simpa [World.refuse, setAt, hn] using (h.changed n hchanged).2⟩

theorem Live.mark (h : Live w s' c') {ok : Bool} : Live (w.mark c name ok) s' c' := by
  by_cases hc : c' = c
  · subst hc
    exact ⟨h.fresh, by simpa [World.mark] using h.prior, by simpa [World.mark] using h.changed⟩
  · exact ⟨h.fresh, by simpa [World.mark, hc] using h.prior,
      by simpa [World.mark, hc] using h.changed⟩

end Frames

section Others

variable {knobs : List WatchdogKnob} {w : World} {phase : Phase} {s : String} {c : Nat}
  {name prior : String} {knob : WatchdogKnob}

/-- The session of a relax has a capture in the table. -/
theorem Knows.table_of_relaxes (h : Knows knobs w phase) (hr : phase.Relaxes s) :
    ∃ c, w.table s = some c := by
  cases phase with
  | owning _ c => exact ⟨c, hr ▸ h.table⟩
  | relaxing _ c | marking _ c => exact ⟨c, hr ▸ h.1.table⟩
  | reissuing _ c => exact ⟨c, hr ▸ h⟩
  | _ => exact hr.elim

/-- That of a restore has none. -/
theorem Knows.table_of_restores (h : Knows knobs w phase) (hr : phase.Restores s) :
    w.table s = none := by
  cases phase with
  | restoring => exact hr ▸ h.popped
  | putting => exact hr ▸ h.1.popped
  | _ => exact hr.elim

/-- What a call knows does not depend on where the others stand, nor on what was written. -/
theorem Knows.unaffected (h : Knows knobs w phase) {calls : Nat → Phase} {staleWrite : Bool} :
    Knows knobs { w with calls := calls, history := { w.history with staleWrite := staleWrite } }
      phase := by
  cases phase with
  | owning => exact { h with }
  | relaxing | marking => exact ⟨{ h.1 with }, { h.2.1 with }, h.2.2⟩
  | reissuing => exact h
  | restoring => exact { h with }
  | putting => exact ⟨{ h.1 with }, h.2⟩
  | idle | done => trivial

theorem Knows.claim (h : Knows knobs w phase) (hlive : ∀ s c, w.table s = some c → Live w s c)
    (hs : w.table s = none) (hnot : ¬ phase.Restores s) : Knows knobs (w.claim s) phase := by
  have hne : ∀ s' c', w.table s' = some c' → s' ≠ s := by
    rintro s' c' htable rfl
    rw [hs] at htable
    cases htable
  have hcapture : ∀ s' c', w.table s' = some c' → c' ≠ w.nextCapture := fun s' c' htable =>
    Nat.ne_of_lt (hlive s' c' htable).fresh
  cases phase with
  | owning => exact h.claim (hne _ _ h.table) (hlive _ _ h.table).fresh
  | relaxing | marking =>
      refine ⟨h.1.claim (hne _ _ h.1.table) (hlive _ _ h.1.table).fresh,
        h.2.1.claim (hne _ _ h.1.table) (hlive _ _ h.1.table).fresh, ?_⟩
      simpa [World.claim, hcapture _ _ h.1.table] using h.2.2
  | reissuing s' c' =>
      show Function.update w.table s (some w.nextCapture) s' = some c'
      rw [Function.update_of_ne (hne _ _ h)]
      exact h
  | restoring => exact h.claim hnot
  | putting => exact ⟨h.1.claim hnot, by simpa [World.claim, show _ ≠ s from hnot] using h.2⟩
  | idle | done => trivial

/-- A capture in the table is that of another call's first relax, and of no restore. -/
theorem Knows.capture (h : Knows knobs w phase) (hs : w.table s = some c)
    (hnot : ¬ phase.Owns c) : Knows knobs (w.capture s c name) phase := by
  cases phase with
  | owning => exact h.capture fun hc => absurd hc hnot
  | relaxing | marking =>
      exact ⟨h.1.capture fun hc => absurd hc hnot, h.2.1.capture hnot, h.2.2⟩
  | reissuing => exact h
  | restoring => exact h.capture fun hc => h.free s (hc ▸ hs)
  | putting => exact ⟨h.1.capture fun hc => h.1.free s (hc ▸ hs), h.2⟩
  | idle | done => trivial

theorem Knows.mark (h : Knows knobs w phase) (hs : w.table s = some c) (hnot : ¬ phase.Owns c)
    {ok : Bool} : Knows knobs (w.mark c name ok) phase := by
  cases phase with
  | owning => exact h.mark
  | relaxing | marking => exact ⟨h.1.mark, h.2.1.mark hnot, h.2.2⟩
  | reissuing => exact h
  | restoring => exact h.mark fun hc => h.free s (hc ▸ hs)
  | putting => exact ⟨h.1.mark fun hc => h.1.free s (hc ▸ hs), h.2⟩
  | idle | done => trivial

theorem Knows.refuse (h : Knows knobs w phase) (hnot : ¬ phase.Owns c) :
    Knows knobs (w.refuse c name) phase := by
  cases phase with
  | owning => exact h.refuse fun hc => absurd hc hnot
  | relaxing s' c' knob | marking s' c' knob =>
      have hne : ¬ (c' = c ∧ knob.name = name) := fun hc => hnot hc.1
      exact ⟨h.1.refuse fun hc => absurd hc hnot, { h.2.1 with },
        by simpa [World.refuse, setAt, hne] using h.2.2⟩
  | reissuing => exact h
  | restoring => exact { h with }
  | putting => exact ⟨{ h.1 with }, h.2⟩
  | idle | done => trivial

/-- A knob that is captured is written.  The first relax of the same session is past it. -/
theorem Knows.relaxKnob (h : Knows knobs w phase)
    (hinjective : ∀ s' c', w.table s' = some c' → s' = s → c' = c) (hs : w.table s = some c)
    (hprior : (w.captures c).prior knob.name ≠ none)
    (hquiet : ¬ phase.CountsOn w s knob.name) : Knows knobs (w.relaxKnob s knob) phase := by
  have hrest : ∀ {s' c' left}, Untouched knobs w s' c' (inBand left) →
      ¬ (s' ≠ s ∧ knob.name ∈ inBand left) → knob.name ∉ inBand left := by
    intro s' c' left hu hnot hmem
    rcases eq_or_ne s' s with heq | hne
    · rw [← hinjective s' c' hu.table heq] at hprior
      exact hprior (hu.prior _ hmem)
    · exact hnot ⟨hne, hmem⟩
  have hother : ∀ {s'}, w.table s' = none → s' ≠ s := by
    rintro s' hnone rfl
    rw [hs] at hnone
    cases hnone
  cases phase with
  | owning => exact h.relaxKnob (hrest h hquiet)
  | relaxing | marking => exact ⟨h.1.relaxKnob (hrest h.1 hquiet), { h.2.1 with }, h.2.2⟩
  | reissuing => exact h
  | restoring =>
      refine h.relaxKnob (hother h.popped) fun hchanged => ?_
      exact Decidable.byContradiction fun hmem => hquiet ⟨hother h.popped, hchanged, hmem⟩
  | putting =>
      refine ⟨h.1.relaxKnob (hother h.1.popped) fun hchanged => ?_, h.2⟩
      exact Decidable.byContradiction fun hmem => hquiet
        ⟨hother h.1.popped, hchanged, fun hin => hmem (List.mem_cons_of_mem _ hin),
          fun heq => hmem (heq ▸ List.mem_cons_self)⟩
  | idle | done => trivial

theorem Knows.pop (h : Knows knobs w phase) (hnot : ¬ phase.Relaxes s) :
    Knows knobs (w.pop s) phase := by
  cases phase with
  | owning => exact h.pop hnot
  | relaxing | marking => exact ⟨h.1.pop hnot, { h.2.1 with }, h.2.2⟩
  | reissuing s' c' =>
      show Function.update w.table s none s' = some c'
      rw [Function.update_of_ne hnot]
      exact h
  | restoring => exact h.pop
  | putting => exact ⟨h.1.pop, h.2⟩
  | idle | done => trivial

/-- A knob is put back, by the only restore of its session. -/
theorem Knows.putBack (h : Knows knobs w phase) (hs : w.table s = none)
    (hnot : ¬ phase.Restores s) (hquiet : ¬ phase.CountsOn w s name) :
    Knows knobs (w.putBack s name prior) phase := by
  have hrest : ∀ {s' c' left}, Untouched knobs w s' c' (inBand left) →
      ¬ (s' ≠ s ∧ name ∈ inBand left) → name ∉ inBand left := by
    intro s' c' left hu hnot hmem
    refine hnot ⟨?_, hmem⟩
    rintro rfl
    rw [hu.table] at hs
    cases hs
  cases phase with
  | owning => exact h.putBack (hrest h hquiet)
  | relaxing | marking => exact ⟨h.1.putBack (hrest h.1 hquiet), { h.2.1 with }, h.2.2⟩
  | reissuing => exact h
  | restoring =>
      refine h.putBack fun hchanged => ?_
      exact Decidable.byContradiction fun hmem => hquiet ⟨hnot, hchanged, hmem⟩
  | putting =>
      refine ⟨h.1.putBack fun hchanged => ?_, h.2⟩
      exact Decidable.byContradiction fun hmem => hquiet
        ⟨hnot, hchanged, fun hin => hmem (List.mem_cons_of_mem _ hin),
          fun heq => hmem (heq ▸ List.mem_cons_self)⟩
  | idle | done => trivial

end Others

namespace Sound

variable {knobs : List WatchdogKnob} {w : World} {s : String} {c : Nat} {name : String}
  {knob : WatchdogKnob}

theorem goto (h : Sound knobs w) {t : Nat} {phase : Phase} : Sound knobs (w.goto t phase) :=
  { h with live := fun s c hs => { h.live s c hs with } }

theorem claim (h : Sound knobs w) (hput : ∀ name, w.history.unrestored s name = false) :
    Sound knobs (w.claim s) := by
  have hold : ∀ s' c', s' ≠ s → (w.claim s).table s' = some c' → w.table s' = some c' :=
    fun s' c' hne hs' => by simpa [World.claim, hne] using hs'
  have hnew : ∀ c', (w.claim s).table s = some c' → c' = w.nextCapture := fun c' hs' => by
    simpa [World.claim, eq_comm] using hs'
  constructor
  case live =>
    intro s' c' hs'
    rcases eq_or_ne s' s with rfl | hne
    · obtain rfl := hnew c' hs'
      exact ⟨Nat.lt_succ_self _, fun _ => .inl (by simp [World.claim, CapturedState.empty]),
        fun _ hchanged => by simp [World.claim] at hchanged⟩
    · exact (h.live s' c' (hold s' c' hne hs')).claim hne
  case injective =>
    have hfresh : ∀ s', s' ≠ s → (w.claim s).table s' ≠ some w.nextCapture := fun s' hne hs' =>
      Nat.lt_irrefl _ (h.live s' _ (hold s' _ hne hs')).fresh
    intro s₁ s₂ c' h₁ h₂
    rcases eq_or_ne s₁ s with heq₁ | hne₁
    · rcases eq_or_ne s₂ s with heq₂ | hne₂
      · exact heq₁.trans heq₂.symm
      · exact absurd (hnew c' (heq₁ ▸ h₁) ▸ h₂) (hfresh s₂ hne₂)
    · rcases eq_or_ne s₂ s with heq₂ | hne₂
      · exact absurd (hnew c' (heq₂ ▸ h₂) ▸ h₁) (hfresh s₁ hne₁)
      · exact h.injective s₁ s₂ c' (hold s₁ c' hne₁ h₁) (hold s₂ c' hne₂ h₂)
  case named =>
    intro c' n hprior
    rcases eq_or_ne c' w.nextCapture with rfl | hne
    · simp [World.claim, CapturedState.empty] at hprior
    · exact h.named c' n (by simpa [World.claim, hne] using hprior)
  case unrestored =>
    intro s' n hn
    rcases eq_or_ne s' s with rfl | hne
    · exact nomatch (hput n).symm.trans hn
    · simpa [World.claim, hne] using h.unrestored s' n hn
  case stale =>
    intro c' n
    rcases eq_or_ne c' w.nextCapture with rfl | hne
    · simp [World.claim]
    · simpa [World.claim, hne] using h.stale c' n
  case staleWrite => exact h.staleWrite

theorem capture (h : Sound knobs w) (hs : w.table s = some c) (hmem : name ∈ inBand knobs)
    (hvalue : w.values name = w.history.baseline s name)
    (hput : w.history.unrestored s name = false) : Sound knobs (w.capture s c name) := by
  constructor
  case live =>
    intro s' c' hs'
    exact (h.live s' c' hs').capture (fun hc => h.injective s' s c (hc ▸ hs') hs) hvalue
  case injective => exact h.injective
  case named =>
    intro c' n hprior
    by_cases hn : c' = c ∧ n = name
    · exact hn.2 ▸ hmem
    · refine h.named c' n ?_
      by_cases hc : c' = c
      · subst hc
        have hne : n ≠ name := fun heq => hn ⟨rfl, heq⟩
        simpa [World.capture, hne] using hprior
      · simpa [World.capture, hc] using hprior
  case unrestored => exact h.unrestored
  case stale =>
    intro c' n
    by_cases hn : c' = c ∧ n = name
    · simpa [World.capture, setAt, hn] using hput
    · simpa [World.capture, setAt, hn] using h.stale c' n
  case staleWrite => exact h.staleWrite

theorem relaxKnob (h : Sound knobs w) (hs : w.table s = some c)
    (hprior : (w.captures c).prior knob.name ≠ none)
    (hrefused : w.history.refused c knob.name = false) : Sound knobs (w.relaxKnob s knob) := by
  refine { h with live := ?_, unrestored := ?_ }
  · intro s' c' hs'
    refine (h.live s' c' hs').relaxKnob fun heq => ?_
    subst heq
    obtain rfl : c' = c := Option.some.inj (hs'.symm.trans hs)
    exact ⟨hprior, hrefused⟩
  · intro s' n hn
    by_cases hat : s' = s ∧ n = knob.name
    · simp [World.relaxKnob, setAt, hat]
    · have hold : w.history.unrestored s' n = true := by
        simpa [World.relaxKnob, setAt, hat] using hn
      simpa [World.relaxKnob, setAt, hat] using h.unrestored s' n hold

theorem refuse (h : Sound knobs w) (hs : w.table s = some c)
    (hunchanged : w.history.changed s name = false) : Sound knobs (w.refuse c name) := by
  refine { h with live := ?_ }
  intro s' c' hs'
  exact (h.live s' c' hs').refuse fun hc => by
    rwa [h.injective s' s c (hc ▸ hs') hs]

theorem mark (h : Sound knobs w) {ok : Bool} : Sound knobs (w.mark c name ok) := by
  refine { h with live := fun s' c' hs' => (h.live s' c' hs').mark, named := ?_ }
  intro c' n hprior
  refine h.named c' n ?_
  by_cases hc : c' = c
  · subst hc
    simpa [World.mark] using hprior
  · simpa [World.mark, hc] using hprior

theorem pop (h : Sound knobs w) : Sound knobs (w.pop s) := by
  have hold : ∀ s' c', (w.pop s).table s' = some c' → w.table s' = some c' := by
    intro s' c' hs'
    rcases eq_or_ne s' s with rfl | hne
    · simp [World.pop] at hs'
    · simpa [World.pop, hne] using hs'
  exact
    { h with
      live := fun s' c' hs' => { h.live s' c' (hold s' c' hs') with }
      injective := fun s₁ s₂ c' h₁ h₂ => h.injective s₁ s₂ c' (hold s₁ c' h₁) (hold s₂ c' h₂) }

theorem putBack (h : Sound knobs w) {prior : String} : Sound knobs (w.putBack s name prior) := by
  refine { h with live := fun s' c' hs' => { h.live s' c' hs' with }, unrestored := ?_ }
  intro s' n hn
  by_cases hat : s' = s ∧ n = name
  · simp [World.putBack, setAt, hat] at hn
  · exact h.unrestored s' n (by simpa [World.putBack, setAt, hat] using hn)

theorem useCaptured (h : Sound knobs w) : Sound knobs (w.useCaptured c name) :=
  { h with
    live := fun s' c' hs' => { h.live s' c' hs' with }
    staleWrite := by simp [World.useCaptured, h.staleWrite, h.stale] }

end Sound

/-! ## Steps keep the invariant -/

theorem inv_start (knobs : List WatchdogKnob) (values : String → String) :
    Inv knobs (.start values) where
  sound :=
    { live := fun _ _ h => nomatch h
      injective := fun _ _ _ h => nomatch h
      named := fun _ _ h => absurd rfl h
      unrestored := fun _ _ h => nomatch h
      stale := fun _ _ => rfl
      staleWrite := rfl }
  settled := fun _ _ h => absurd rfl h
  knows := fun _ => trivial
  owner := fun _ _ _ h => h.elim
  restorer := fun _ _ _ h => h.elim

section Steps

variable {knobs : List WatchdogKnob} {w : World} {t : Nat} {phase : Phase} {s : String} {c : Nat}
  {name prior : String} {knob : WatchdogKnob}

@[simp] theorem goto_calls_self : (w.goto t phase).calls t = phase := Function.update_self ..

theorem goto_calls_of_ne {t' : Nat} (h : t' ≠ t) : (w.goto t phase).calls t' = w.calls t' :=
  Function.update_of_ne h ..

/-- A call goes on, behind a change of what the calls share. -/
theorem Inv.change (h : Inv knobs w) {w₁ : World} (hcalls : w₁.calls = w.calls)
    (hsound : Sound knobs w₁)
    (hsettled : ∀ c name, (w₁.captures c).prior name ≠ none →
      (w₁.captures c).relaxed name = some (!w₁.history.refused c name) ∨ phase.Pending c name ∨
        ∃ t', t' ≠ t ∧ (w.calls t').Pending c name)
    (hself : Knows knobs w₁ phase) (hothers : ∀ t', t' ≠ t → Knows knobs w₁ (w.calls t'))
    (howns : ∀ c, phase.Owns c → ∀ t', t' ≠ t → ¬ (w.calls t').Owns c)
    (hrestores : ∀ s, phase.Restores s → ∀ t', t' ≠ t → ¬ (w.calls t').Restores s) :
    Inv knobs (w₁.goto t phase) := by
  have hne : ∀ {t'}, t' ≠ t → (w₁.goto t phase).calls t' = w.calls t' := fun ht' => by
    rw [goto_calls_of_ne ht', hcalls]
  constructor
  case sound => exact hsound.goto
  case settled =>
    intro c name hprior
    obtain hdone | hpending | ⟨t', ht', hpending⟩ := hsettled c name hprior
    · exact .inl hdone
    · exact .inr ⟨t, by rwa [goto_calls_self]⟩
    · exact .inr ⟨t', by rwa [hne ht']⟩
  case knows =>
    intro t'
    rcases eq_or_ne t' t with rfl | ht'
    · rw [goto_calls_self]
      exact hself.unaffected
    · rw [hne ht']
      exact (hothers t' ht').unaffected
  case owner =>
    intro t₁ t₂ c h₁ h₂
    rcases eq_or_ne t₁ t with heq₁ | hne₁ <;> rcases eq_or_ne t₂ t with heq₂ | hne₂
    · exact heq₁.trans heq₂.symm
    · rw [heq₁, goto_calls_self] at h₁
      exact absurd (hne hne₂ ▸ h₂) (howns c h₁ t₂ hne₂)
    · rw [heq₂, goto_calls_self] at h₂
      exact absurd (hne hne₁ ▸ h₁) (howns c h₂ t₁ hne₁)
    · exact h.owner t₁ t₂ c (hne hne₁ ▸ h₁) (hne hne₂ ▸ h₂)
  case restorer =>
    intro t₁ t₂ s h₁ h₂
    rcases eq_or_ne t₁ t with heq₁ | hne₁ <;> rcases eq_or_ne t₂ t with heq₂ | hne₂
    · exact heq₁.trans heq₂.symm
    · rw [heq₁, goto_calls_self] at h₁
      exact absurd (hne hne₂ ▸ h₂) (hrestores s h₁ t₂ hne₂)
    · rw [heq₂, goto_calls_self] at h₂
      exact absurd (hne hne₁ ▸ h₁) (hrestores s h₂ t₁ hne₁)
    · exact h.restorer t₁ t₂ s (hne hne₁ ▸ h₁) (hne hne₂ ▸ h₂)

/-- The other calls are not the first relax of a capture that this one has. -/
theorem Inv.others_own (h : Inv knobs w) (howns : (w.calls t).Owns c) (t' : Nat) (ht' : t' ≠ t) :
    ¬ (w.calls t').Owns c := fun howns' => ht' (h.owner t' t c howns' howns)

theorem Inv.others_restore (h : Inv knobs w) (hrestores : (w.calls t).Restores s) (t' : Nat)
    (ht' : t' ≠ t) : ¬ (w.calls t').Restores s :=
  fun hrestores' => ht' (h.restorer t' t s hrestores' hrestores)

/-- What is settled stays so when a call has nothing pending. -/
theorem Inv.settled_others (h : Inv knobs w) (hnot : ∀ c name, ¬ (w.calls t).Pending c name)
    (c : Nat) (name : String) (hprior : (w.captures c).prior name ≠ none) :
    (w.captures c).relaxed name = some (!w.history.refused c name) ∨ phase.Pending c name ∨
      ∃ t', t' ≠ t ∧ (w.calls t').Pending c name := by
  obtain hdone | ⟨t', hpending⟩ := h.settled c name hprior
  · exact .inl hdone
  · refine .inr (.inr ⟨t', ?_, hpending⟩)
    rintro rfl
    exact hnot c name hpending

/-- A call that has nothing pending goes on. -/
theorem Inv.goto (h : Inv knobs w) (hnot : ∀ c name, ¬ (w.calls t).Pending c name)
    (hself : Knows knobs w phase) (howns : ∀ c, phase.Owns c → (w.calls t).Owns c)
    (hrestores : ∀ s, phase.Restores s → (w.calls t).Restores s) : Inv knobs (w.goto t phase) :=
  h.change rfl h.sound (h.settled_others hnot) hself (fun t' _ => h.knows t')
    (fun c hc => h.others_own (howns c hc)) (fun s hs => h.others_restore (hrestores s hs))

/-- A first relax begins. -/
theorem Inv.claim (h : Inv knobs w) (ht : w.calls t = .idle) (hs : w.table s = none)
    (hnames : (inBand knobs).Nodup) (hnot : ∀ t', ¬ (w.calls t').Restores s)
    (hput : ∀ name, w.history.unrestored s name = false) :
    Inv knobs ((w.claim s).goto t (.owning s w.nextCapture knobs [])) := by
  have hfresh : ∀ t', ¬ (w.calls t').Owns w.nextCapture := by
    intro t' howns
    have hknows := h.knows t'
    cases hphase : w.calls t' <;> rw [hphase] at howns hknows <;> try exact howns
    case owning => exact absurd howns (Nat.ne_of_lt (h.sound.live _ _ hknows.table).fresh)
    case relaxing | marking =>
      exact absurd howns (Nat.ne_of_lt (h.sound.live _ _ hknows.1.table).fresh)
  refine h.change rfl (h.sound.claim hput) ?_ ?_
    (fun t' _ => (h.knows t').claim h.sound.live hs (hnot t')) ?_ (fun _ hr => hr.elim)
  · intro c name hprior
    have hne : c ≠ w.nextCapture := by
      rintro rfl
      simp [World.claim, CapturedState.empty] at hprior
    have hprior' : (w.captures c).prior name ≠ none := by simpa [World.claim, hne] using hprior
    simpa [World.claim, hne] using h.settled_others (by simp [ht, Phase.Pending]) c name hprior'
  · constructor
    case table => simp [World.claim]
    case nodup => exact hnames
    case subset => exact fun _ hmem => hmem
    case prior => simp [World.claim, CapturedState.empty]
    case unchanged => simp [World.claim]
    case unrefused => simp [World.claim]
    case values => simp [World.claim]
  · rintro c rfl t' -
    exact hfresh t'

variable {left : List WatchdogKnob} {outcomes : List (String × KnobOutcome)}
  {restored : List (String × Bool)} {ok : Bool}

/-- What is left of a first relax once it has read a knob. -/
theorem Untouched.tail (h : Untouched knobs w s c (inBand (knob :: left))) :
    Untouched knobs w s c (inBand left) := by
  have hsub : inBand left ⊆ inBand (knob :: left) := by
    intro name hmem
    cases hout : knob.outOfBand with
    | true => rwa [inBand_cons_outOfBand hout]
    | false => exact inBand_cons hout ▸ List.mem_cons_of_mem _ hmem
  have hnodup : (inBand left).Nodup := by
    have hall := h.nodup
    cases hout : knob.outOfBand with
    | true => rwa [inBand_cons_outOfBand hout] at hall
    | false => exact (List.nodup_cons.mp (inBand_cons hout ▸ hall)).2
  exact ⟨h.table, hnodup, fun n hn => h.subset n (hsub hn), fun n hn => h.prior n (hsub hn),
    fun n hn => h.unchanged n (hsub hn), fun n hn => h.unrefused n (hsub hn),
    fun n hn => h.values n (hsub hn)⟩

/-- A first relax reads a knob, which is as its session found it. -/
theorem Inv.capture (h : Inv knobs w) (ht : w.calls t = .owning s c (knob :: left) outcomes)
    (hin : knob.outOfBand = false) :
    Inv knobs ((w.capture s c knob.name).goto t (.relaxing s c knob left outcomes)) := by
  have hrest : Untouched knobs w s c (inBand (knob :: left)) := by simpa [ht, Knows] using h.knows t
  have howns : (w.calls t).Owns c := by rw [ht]; exact rfl
  have hmem : knob.name ∈ inBand (knob :: left) := by simp [inBand_cons hin]
  have hnotMem : knob.name ∉ inBand left := by
    have hall := hrest.nodup
    rw [inBand_cons hin] at hall
    exact (List.nodup_cons.mp hall).1
  have hput : w.history.unrestored s knob.name = false := by
    rw [← Bool.not_eq_true]
    intro hun
    exact nomatch (hrest.unchanged _ hmem).symm.trans (h.sound.unrestored s _ hun)
  refine h.change rfl
    (h.sound.capture hrest.table (hrest.subset _ hmem) (hrest.values _ hmem) hput) ?_ ?_
    (fun t' ht' => (h.knows t').capture hrest.table (h.others_own howns t' ht')) ?_
    (fun _ hr => hr.elim)
  · intro c' name hprior
    by_cases hat : c = c' ∧ knob.name = name
    · exact .inr (.inl hat)
    · have hsame : ((w.capture s c knob.name).captures c').prior name =
          (w.captures c').prior name := by
        by_cases hc : c' = c
        · subst hc
          have hne : name ≠ knob.name := fun heq => hat ⟨rfl, heq.symm⟩
          simp [World.capture, hne]
        · simp [World.capture, hc]
      have hrelaxed : ((w.capture s c knob.name).captures c').relaxed =
          (w.captures c').relaxed := by
        by_cases hc : c' = c
        · subst hc
          simp [World.capture]
        · simp [World.capture, hc]
      rw [hrelaxed]
      exact h.settled_others (by simp [ht, Phase.Pending]) c' name (hsame ▸ hprior)
  · refine ⟨hrest.tail.capture fun _ => hnotMem, ⟨hnotMem, hrest.subset _ hmem, ?_⟩,
      hrest.unrefused _ hmem⟩
    simp [World.capture, hrest.values _ hmem]
  · rintro c' rfl
    exact h.others_own howns

/-- A first relax writes a knob. -/
theorem Inv.relaxOwned (h : Inv knobs w) (ht : w.calls t = .relaxing s c knob left outcomes)
    (hquiet : w.Undisturbed s knob.name) :
    Inv knobs ((w.relaxKnob s knob).goto t (.marking s c knob left outcomes true)) := by
  have hknows := h.knows t
  rw [ht] at hknows
  obtain ⟨hrest, hat, hrefused⟩ := hknows
  have howns : (w.calls t).Owns c := by rw [ht]; exact rfl
  have hprior : (w.captures c).prior knob.name ≠ none := by simp [hat.prior]
  refine h.change rfl (h.sound.relaxKnob hrest.table hprior hrefused) ?_ ?_
    (fun t' _ => (h.knows t').relaxKnob (fun s' c' hs' heq => ?_) hrest.table hprior (hquiet t')) ?_
    (fun _ hr => hr.elim)
  · intro c' name hprior'
    obtain hdone | ⟨t', hpending⟩ := h.settled c' name hprior'
    · exact .inl hdone
    · rcases eq_or_ne t' t with rfl | ht'
      · rw [ht] at hpending
        exact .inr (.inl hpending)
      · exact .inr (.inr ⟨t', ht', hpending⟩)
  · exact ⟨hrest.relaxKnob hat.notMem, { hat with }, hrefused⟩
  · subst heq
    exact Option.some.inj (hs'.symm.trans hrest.table)
  · rintro c' rfl
    exact h.others_own howns

/-- The first write of a knob fails, and no relax has changed it. -/
theorem Inv.refuse (h : Inv knobs w) (ht : w.calls t = .relaxing s c knob left outcomes)
    (hunchanged : w.history.changed s knob.name = false) :
    Inv knobs ((w.refuse c knob.name).goto t (.marking s c knob left outcomes false)) := by
  have hknows := h.knows t
  rw [ht] at hknows
  obtain ⟨hrest, hat, hrefused⟩ := hknows
  have howns : (w.calls t).Owns c := by rw [ht]; exact rfl
  refine h.change rfl (h.sound.refuse hrest.table hunchanged) ?_ ?_
    (fun t' ht' => (h.knows t').refuse (h.others_own howns t' ht')) ?_ (fun _ hr => hr.elim)
  · intro c' name hprior
    by_cases hne : c = c' ∧ knob.name = name
    · exact .inr (.inl hne)
    · have hne' : ¬ (c' = c ∧ name = knob.name) := fun ⟨hc, hn⟩ => hne ⟨hc.symm, hn.symm⟩
      obtain hdone | ⟨t', hpending⟩ := h.settled c' name hprior
      · exact .inl (by simpa [World.refuse, setAt, hne'] using hdone)
      · refine .inr (.inr ⟨t', ?_, hpending⟩)
        rintro rfl
        rw [ht] at hpending
        exact hne hpending
  · exact ⟨hrest.refuse fun _ => hat.notMem, { hat with }, by simp [World.refuse, setAt]⟩
  · rintro c' rfl
    exact h.others_own howns

/-- The outcome of the first write is captured. -/
theorem Inv.mark (h : Inv knobs w) (ht : w.calls t = .marking s c knob left outcomes ok)
    {outcomes' : List (String × KnobOutcome)} :
    Inv knobs ((w.mark c knob.name ok).goto t (.owning s c left outcomes')) := by
  have hknows := h.knows t
  rw [ht] at hknows
  obtain ⟨hrest, hat, hrefused⟩ := hknows
  have howns : (w.calls t).Owns c := by rw [ht]; exact rfl
  refine h.change rfl h.sound.mark ?_ hrest.mark
    (fun t' ht' => (h.knows t').mark hrest.table (h.others_own howns t' ht')) ?_
    (fun _ hr => hr.elim)
  · intro c' name hprior
    by_cases hne : c' = c ∧ name = knob.name
    · obtain ⟨rfl, rfl⟩ := hne
      exact .inl (by simp [World.mark, hrefused])
    · have hsame : ((w.mark c knob.name ok).captures c').prior name =
            (w.captures c').prior name ∧
          ((w.mark c knob.name ok).captures c').relaxed name =
            (w.captures c').relaxed name := by
        by_cases hc : c' = c
        · subst hc
          have hn : name ≠ knob.name := fun heq => hne ⟨rfl, heq⟩
          simp [World.mark, hn]
        · simp [World.mark, hc]
      obtain hdone | ⟨t', hpending⟩ := h.settled c' name (hsame.1 ▸ hprior)
      · exact .inl (hsame.2 ▸ hdone)
      · refine .inr (.inr ⟨t', ?_, hpending⟩)
        rintro rfl
        rw [ht] at hpending
        exact hne ⟨hpending.1.symm, hpending.2.symm⟩
  · rintro c' rfl
    exact h.others_own howns

/-- A repeated relax writes a captured knob that the first one did not fail on. -/
theorem Inv.reissue (h : Inv knobs w) (ht : w.calls t = .reissuing s c (knob :: left) outcomes)
    (hprior : (w.captures c).prior knob.name ≠ none)
    (hrefused : w.history.refused c knob.name = false) (hquiet : w.Undisturbed s knob.name)
    {outcomes' : List (String × KnobOutcome)} :
    Inv knobs ((w.relaxKnob s knob).goto t (.reissuing s c left outcomes')) := by
  have hs : w.table s = some c := by simpa [ht, Knows] using h.knows t
  refine h.change rfl (h.sound.relaxKnob hs hprior hrefused)
    (h.settled_others (by simp [ht, Phase.Pending])) hs
    (fun t' _ => (h.knows t').relaxKnob (fun s' c' hs' heq => ?_) hs hprior (hquiet t'))
    (fun _ ho => ho.elim) (fun _ hr => hr.elim)
  subst heq
  exact Option.some.inj (hs'.symm.trans hs)

/-- A restore pops the capture when no relax of its session is in progress. -/
theorem Inv.pop (h : Inv knobs w) (ht : w.calls t = .idle) (hs : w.table s = some c)
    (hnames : (inBand knobs).Nodup) (hnot : ∀ t', ¬ (w.calls t').Relaxes s) :
    Inv knobs ((w.pop s).goto t (.restoring s c knobs.reverse [])) := by
  have hlive := h.sound.live s c hs
  have hpending : ∀ name, ¬ ∃ t', (w.calls t').Pending c name := by
    rintro name ⟨t', hpending⟩
    have hknows := h.knows t'
    have hr := hnot t'
    cases hphase : w.calls t' <;> rw [hphase] at hpending hknows hr <;> try exact hpending
    case relaxing | marking =>
      exact hr (h.sound.injective _ _ c (hpending.1 ▸ hknows.1.table) hs)
  refine h.change rfl h.sound.pop (h.settled_others (by simp [ht, Phase.Pending])) ?_
    (fun t' _ => (h.knows t').pop (hnot t')) (fun _ ho => ho.elim) ?_
  · constructor
    case popped => simp [World.pop]
    case fresh => exact hlive.fresh
    case free =>
      intro s' hs'
      rcases eq_or_ne s' s with rfl | hne
      · simp [World.pop] at hs'
      · exact hne (h.sound.injective s' s c (by simpa [World.pop, hne] using hs') hs)
    case nodup =>
      rw [inBand_reverse]
      exact List.nodup_reverse.mpr hnames
    case prior => exact hlive.prior
    case captured =>
      intro name hchanged
      obtain ⟨hprior, hrefused⟩ := hlive.changed name hchanged
      have hrelaxed := (h.settled c name hprior).resolve_right (hpending name)
      rwa [hrefused] at hrelaxed
    case back =>
      intro name hchanged hmem
      rw [inBand_reverse, List.mem_reverse] at hmem
      exact absurd (h.sound.named c name (hlive.changed name hchanged).1) hmem
  · rintro s' rfl t' -
    intro hr
    rw [(h.knows t').table_of_restores hr] at hs
    cases hs

/-- A value that is about to be written was not read from a knob its session had relaxed. -/
theorem Inv.useCaptured (h : Inv knobs w) : Inv knobs (w.useCaptured c name) where
  sound := h.sound.useCaptured
  settled := h.settled
  knows := fun t' => (h.knows t').unaffected
  owner := h.owner
  restorer := h.restorer

/-- A restore puts a knob back. -/
theorem Inv.putBack (h : Inv knobs w) (ht : w.calls t = .putting s c knob prior left restored)
    (hquiet : w.Undisturbed s knob.name) :
    Inv knobs ((w.putBack s knob.name prior).goto t
      (.restoring s c left (Artifacts.setItem knob.name true restored))) := by
  have hknows := h.knows t
  rw [ht] at hknows
  obtain ⟨hback, hvalue⟩ := hknows
  have hr : (w.calls t).Restores s := by rw [ht]; exact rfl
  refine h.change rfl h.sound.putBack (h.settled_others (by simp [ht, Phase.Pending])) ?_
    (fun t' ht' => (h.knows t').putBack hback.popped (h.others_restore hr t' ht') (hquiet t'))
    (fun _ ho => ho.elim) ?_
  · refine ⟨hback.popped, hback.fresh, hback.free, (List.nodup_cons.mp hback.nodup).2,
      hback.prior, hback.captured, ?_⟩
    intro name hchanged hmem
    by_cases hn : name = knob.name
    · subst hn
      exact .inl (by simp [World.putBack, hvalue])
    · have hmem' : name ∉ knob.name :: inBand left := by simp [hn, hmem]
      rw [Artifacts.lookup_setItem_of_ne hn]
      simpa [World.putBack, hn] using hback.back name hchanged hmem'
  · rintro s' rfl
    exact h.others_restore hr

/-- The write of a restore fails. -/
theorem Inv.keep (h : Inv knobs w) (ht : w.calls t = .putting s c knob prior left restored) :
    Inv knobs (w.goto t (.restoring s c left (Artifacts.setItem knob.name false restored))) := by
  have hknows := h.knows t
  rw [ht] at hknows
  obtain ⟨hback, -⟩ := hknows
  refine h.goto (by simp [ht, Phase.Pending]) ?_ (fun _ ho => ho.elim)
    (fun _ hr => by rw [ht]; exact hr)
  refine { hback with nodup := (List.nodup_cons.mp hback.nodup).2, back := ?_ }
  intro name hchanged hmem
  by_cases hn : name = knob.name
  · subst hn
    exact .inr (Artifacts.lookup_setItem ..)
  · have hmem' : name ∉ knob.name :: inBand left := by simp [hn, hmem]
    rw [Artifacts.lookup_setItem_of_ne hn]
    exact hback.back name hchanged hmem'

theorem Inv.beginRelax (h : Inv knobs w) (hnames : (inBand knobs).Nodup) (ht : w.calls t = .idle)
    {session : Option String} (hd : Disciplined ⟨t, .relax session⟩ w) :
    Inv knobs (beginRelax knobs w t session) := by
  have hnot : ∀ c name, ¬ (w.calls t).Pending c name := by simp [ht, Phase.Pending]
  simp only [Disciplined, ht] at hd
  cases session with
  | none => exact h.goto hnot trivial (fun _ ho => ho.elim) (fun _ hr => hr.elim)
  | some s =>
      rw [Watchdog.beginRelax]
      cases hs : w.table s with
      | none => exact h.claim ht hs hnames (hd hs).1 (hd hs).2
      | some c => exact h.goto hnot hs (fun _ ho => ho.elim) (fun _ hr => hr.elim)

theorem Inv.beginRestore (h : Inv knobs w) (hnames : (inBand knobs).Nodup)
    (ht : w.calls t = .idle) {session : Option String}
    (hd : Disciplined ⟨t, .restore session⟩ w) : Inv knobs (beginRestore knobs w t session) := by
  have hnot : ∀ c name, ¬ (w.calls t).Pending c name := by simp [ht, Phase.Pending]
  simp only [Disciplined, ht] at hd
  cases session with
  | none => exact h.goto hnot trivial (fun _ ho => ho.elim) (fun _ hr => hr.elim)
  | some s =>
      rw [Watchdog.beginRestore]
      cases hs : w.table s with
      | none => exact h.goto hnot trivial (fun _ ho => ho.elim) (fun _ hr => hr.elim)
      | some c => exact h.pop ht hs hnames hd

theorem Inv.owning (h : Inv knobs w) (ht : w.calls t = .owning s c left outcomes) :
    Inv knobs (advance w t ok (.owning s c left outcomes)) := by
  have hnot : ∀ c name, ¬ (w.calls t).Pending c name := by simp [ht, Phase.Pending]
  have hrest : Untouched knobs w s c (inBand left) := by simpa [ht, Knows] using h.knows t
  have hsame : ∀ c', c = c' → (w.calls t).Owns c' := fun c' hc => by rw [ht]; exact hc
  cases left with
  | nil => exact h.goto hnot trivial (fun _ ho => ho.elim) (fun _ hr => hr.elim)
  | cons knob left =>
      rw [advance]
      split
      · exact h.goto hnot hrest.tail hsame (fun _ hr => hr.elim)
      · next hin =>
          split
          · exact h.capture ht (by simpa using hin)
          · exact h.goto hnot hrest.tail hsame (fun _ hr => hr.elim)

theorem Inv.relaxing (h : Inv knobs w) (ht : w.calls t = .relaxing s c knob left outcomes)
    (hd : Disciplined ⟨t, .next ok⟩ w) :
    Inv knobs (advance w t ok (.relaxing s c knob left outcomes)) := by
  simp only [Disciplined, ht] at hd
  cases ok with
  | true => exact h.relaxOwned ht hd
  | false => exact h.refuse ht hd

theorem Inv.reissuing (h : Inv knobs w) (ht : w.calls t = .reissuing s c left outcomes)
    (hd : Disciplined ⟨t, .next ok⟩ w) :
    Inv knobs (advance w t ok (.reissuing s c left outcomes)) := by
  have hnot : ∀ c name, ¬ (w.calls t).Pending c name := by simp [ht, Phase.Pending]
  have hs : w.table s = some c := by simpa [ht, Knows] using h.knows t
  cases left with
  | nil => exact h.goto hnot trivial (fun _ ho => ho.elim) (fun _ hr => hr.elim)
  | cons knob left =>
      rw [advance]
      split
      · exact h.goto hnot hs (fun _ ho => ho.elim) (fun _ hr => hr.elim)
      · next hin =>
          split
          · exact h.goto hnot hs (fun _ ho => ho.elim) (fun _ hr => hr.elim)
          · next hprior =>
              cases ok with
              | true =>
                  simp only [Disciplined, ht] at hd
                  obtain ⟨hrefused, hquiet⟩ := hd (by simpa using hin) hprior
                  exact h.reissue ht hprior hrefused hquiet
              | false => exact h.goto hnot hs (fun _ ho => ho.elim) (fun _ hr => hr.elim)

/-- A restore leaves out a knob only if no relax changed it. -/
theorem PuttingBack.skip (h : PuttingBack w s c (inBand (knob :: left)) restored)
    (hskip : knob.outOfBand ∨ (w.captures c).relaxed knob.name ≠ some true) :
    PuttingBack w s c (inBand left) restored := by
  cases hout : knob.outOfBand with
  | true => rwa [inBand_cons_outOfBand hout] at h
  | false =>
      rw [inBand_cons hout] at h
      have hrelaxed : (w.captures c).relaxed knob.name ≠ some true :=
        hskip.resolve_left (by simp [hout])
      refine { h with nodup := (List.nodup_cons.mp h.nodup).2, back := ?_ }
      intro name hchanged hmem
      refine h.back name hchanged fun hin => ?_
      rcases List.mem_cons.mp hin with rfl | hin
      · exact hrelaxed (h.captured _ hchanged)
      · exact hmem hin

theorem Inv.restoring (h : Inv knobs w) (ht : w.calls t = .restoring s c left restored) :
    Inv knobs (advance w t ok (.restoring s c left restored)) := by
  have hnot : ∀ c name, ¬ (w.calls t).Pending c name := by simp [ht, Phase.Pending]
  have hback : PuttingBack w s c (inBand left) restored := by simpa [ht, Knows] using h.knows t
  have hsame : ∀ s', s = s' → (w.calls t).Restores s' := fun s' hs => by rw [ht]; exact hs
  cases left with
  | nil => exact h.goto hnot trivial (fun _ ho => ho.elim) (fun _ hr => hr.elim)
  | cons knob left =>
      rw [advance]
      split
      · next hskip => exact h.goto hnot (hback.skip hskip) (fun _ ho => ho.elim) hsame
      · next hput =>
          have hin : knob.outOfBand = false := by
            simpa using (not_or.mp hput).1
          split
          · exact h.goto hnot trivial (fun _ ho => ho.elim) (fun _ hr => hr.elim)
          · next prior hprior =>
              refine h.goto hnot ⟨?_, ?_⟩ (fun _ ho => ho.elim) hsame
              · rwa [inBand_cons hin] at hback
              · have hcaptured := (hback.prior knob.name).resolve_left (by simp [hprior])
                exact Option.some.inj (hprior.symm.trans hcaptured)

theorem Inv.putting (h : Inv knobs w) (ht : w.calls t = .putting s c knob prior left restored)
    (hd : Disciplined ⟨t, .next ok⟩ w) :
    Inv knobs (advance w t ok (.putting s c knob prior left restored)) := by
  have ht' : (w.useCaptured c knob.name).calls t = .putting s c knob prior left restored := ht
  have hused : Inv knobs (w.useCaptured c knob.name) := h.useCaptured
  simp only [Disciplined, ht] at hd
  cases ok with
  | true => exact hused.putBack ht' hd
  | false => exact hused.keep ht'

/-- What every step keeps. -/
theorem Inv.step (h : Inv knobs w) (hnames : (inBand knobs).Nodup) {move : Move}
    (hd : Disciplined move w) : Inv knobs (step knobs move w) := by
  obtain ⟨t, event⟩ := move
  rw [Watchdog.step]
  cases event with
  | relax session =>
      cases ht : w.calls t with
      | idle => exact h.beginRelax hnames ht hd
      | _ => exact h
  | restore session =>
      cases ht : w.calls t with
      | idle => exact h.beginRestore hnames ht hd
      | _ => exact h
  | next ok =>
      cases ht : w.calls t with
      | idle | done => exact h
      | owning => exact h.owning ht
      | relaxing => exact h.relaxing ht hd
      | marking => exact h.mark ht
      | reissuing => exact h.reissuing ht hd
      | restoring => exact h.restoring ht
      | putting => exact h.putting ht hd

end Steps

/-! ## The baseline -/

/-- When the writes of a restore succeeded, the knobs that the relaxes of its session changed are
as the session found them, and no value is written that was read from a knob its session had
relaxed. -/
structure Restored (w : World) : Prop where
  back : ∀ t s c restored name, w.calls t = .restoring s c [] restored → failures restored = [] →
    w.history.changed s name = true → w.values name = w.history.baseline s name
  fresh : w.history.staleWrite = false

theorem lookup_of_failures {restored : List (String × Bool)} (h : failures restored = [])
    (name : String) : restored.lookup name ≠ some false := by
  intro hlookup
  have hmem := List.filter_eq_nil_iff.mp h _ (Association.mem_of_lookup hlookup)
  exact hmem rfl

/-- One detector. -/
def oneKnob : Option (List WatchdogKnob) := some [⟨"watchdog", "0", false⟩]

/-- A call of session `s`, with the outcomes of its accesses. -/
def callOf (caller : Nat) (event : Event) (outcomes : List Bool) : List Move :=
  ⟨caller, event⟩ :: outcomes.map fun ok => ⟨caller, .next ok⟩

/-- A session relaxes twice and restores. -/
def relaxTwice (first : Bool) (restore : List Bool) : List Move :=
  callOf 0 (.relax (some "s")) [true, first, true, true] ++
    callOf 1 (.relax (some "s")) [true, true] ++ callOf 2 (.restore (some "s")) restore

/-- A session relaxes and fails to restore, and then relaxes and restores. -/
def relaxAgain : List Move :=
  callOf 0 (.relax (some "s")) [true, true, true, true] ++
    callOf 1 (.restore (some "s")) [true, false, true] ++
    callOf 2 (.relax (some "s")) [true, true, true, true] ++
    callOf 3 (.restore (some "s")) [true, true]

end Kdive.Watchdog

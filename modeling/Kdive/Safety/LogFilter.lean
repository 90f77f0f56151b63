import Kdive.Lib.Runs
import Kdive.Safety.Redaction

/-!
# The log filter

`SecretRedactionFilter` masks every log record with a redactor that it keeps until the
version of the registry changes.  A log handler calls its filter before it takes its
lock, so calls overlap with each other and with the calls of the registry.

*Calls.*  A call reads the version.  If the filter holds a redactor for another version,
it reads the snapshot, builds a redactor, stores it and then stores the version it had
read.  In the end it takes the redactor that is stored, which another call may have put
there.  A `Phase` is how far a call is, and `proceed` is its next operation.

*Dates.*  Every snapshot and redactor is `Dated` with the version the registry had when
the snapshot was read.  The program does not keep it.  A call stores a redactor that is
older than the stored one when another call read the snapshot later and was faster.
Until the version is stored too, or for good if the other call stores its version last,
the filter takes the old redactor for the new one.

In a run without such a step (`Orderly`) the stored redactor is never older than the
stored version (`Inv`), and a call ends with a redactor that knows every value held
during the call (`Owed`).
-/

namespace Kdive.LogFilter

open Runs SecretRegistry

/-! ## Records -/

/-- A log record, as far as the filter reads it. -/
structure LogRecord where
  /-- `getMessage`, unless it raises. -/
  message : Option Text
  /-- `f"{record.msg!r} args={record.args!r}"` -/
  unformatted : Text
  /-- `exc_info`, as `format_exception` writes it. -/
  exc_info : Option Text
  exc_text : Option Text
  stack_info : Option Text
deriving DecidableEq

/-- What the filter writes into a record. -/
structure Filtered where
  msg : Text
  exc_text : Option Text
  stack_info : Option Text
deriving DecidableEq

/-- A text that is there and not empty is redacted. -/
def redactSome (redactor : Redactor) : Option Text → Option Text
  | some (c :: text) => some (redactor.redactText (c :: text))
  | text => text

/-- `filter`, with the redactor it took. -/
def filtered (redactor : Redactor) (record : LogRecord) : Filtered where
  msg := redactor.redactText (record.message.getD record.unformatted)
  exc_text := redactSome redactor (record.exc_info.or record.exc_text)
  stack_info := redactSome redactor record.stack_info

/-! ## The filter -/

/-- Something made from a snapshot, and the version of the registry at that snapshot. -/
structure Dated (α : Type) where
  value : α
  version : Nat

/-- How far a call of the filter is, with its local variables. -/
inductive Phase where
  /-- Not begun. -/
  | idle
  /-- The version is read. -/
  | versioned (record : LogRecord) (version : Nat)
  /-- It is not the version of the stored redactor. -/
  | stale (record : LogRecord) (version : Nat)
  /-- The snapshot is read. -/
  | copied (record : LogRecord) (version : Nat) (snapshot : Dated (List Text))
  /-- The redactor is built. -/
  | built (record : LogRecord) (version : Nat) (redactor : Dated Redactor)
  /-- The redactor is stored, the version is not. -/
  | stored (record : LogRecord) (version : Nat)
  /-- The stored redactor is the one to take. -/
  | current (record : LogRecord) (version : Nat)
  /-- The redactor is taken. -/
  | masking (record : LogRecord) (redactor : Redactor)
  /-- The record is redacted. -/
  | ended (redactor : Redactor) (out : Filtered)

/-- The registry, a filter of it and the calls of the filter. -/
structure State (Object : Type) where
  uses : Uses Object
  /-- `_cached_version`. -/
  cachedVersion : Int
  /-- `_redactor`. -/
  redactor : Dated Redactor
  calls : Nat → Phase

/-- What happens next. -/
inductive Event (Object : Type) where
  /-- A call of the registry. -/
  | call (c : Call Object)
  /-- A record reaches the filter, and its call reads the version. -/
  | begin (n : Nat) (record : LogRecord)
  /-- A call does its next operation.  A snapshot it reads comes in this order. -/
  | next (n : Nat) (order : List Text)

namespace State

variable {Object : Type}

/-- The version of the registry. -/
def version (s : State Object) : Nat := s.uses.registry.version

/-- A call goes on to a phase. -/
def goto (s : State Object) (n : Nat) (phase : Phase) : State Object :=
  { s with calls := Function.update s.calls n phase }

section Goto

variable (s : State Object) (n : Nat) (phase : Phase)

@[simp] theorem goto_uses : (s.goto n phase).uses = s.uses := rfl

@[simp] theorem goto_version : (s.goto n phase).version = s.version := rfl

@[simp] theorem goto_redactor : (s.goto n phase).redactor = s.redactor := rfl

@[simp] theorem goto_cachedVersion : (s.goto n phase).cachedVersion = s.cachedVersion := rfl

@[simp] theorem goto_calls : (s.goto n phase).calls = Function.update s.calls n phase := rfl

end Goto

/-- `SecretRedactionFilter(registry)`, where the snapshot comes in this order. -/
def create (alnum : Char → Bool) (uses : Uses Object) (order : List Text) : State Object where
  uses := uses
  cachedVersion := -1
  redactor := ⟨Redactor.create alnum order [], uses.registry.version⟩
  calls := fun _ => .idle

end State

section Operations

variable {Object : Type}

/-- The next operation of a call.  `Redactor` reads a snapshot of its own. -/
def Phase.advance (alnum : Char → Bool) (s : State Object) (order : List Text) : Phase → Phase
  | .idle => .idle
  | .versioned record version =>
      if (version : Int) ≠ s.cachedVersion then .stale record version else .current record version
  | .stale record version =>
      if s.uses.registry.Enumerates order then .copied record version ⟨order, s.version⟩
      else .stale record version
  | .copied record version snapshot =>
      if s.uses.registry.Enumerates order then
        .built record version ⟨Redactor.create alnum order snapshot.value, snapshot.version⟩
      else .copied record version snapshot
  | .built record version _ => .stored record version
  | .stored record version => .current record version
  | .current record _ => .masking record s.redactor.value
  | .masking record redactor => .ended redactor (filtered redactor record)
  | .ended redactor out => .ended redactor out

/-- `self._redactor` after it. -/
def Phase.redactorAfter (redactor : Dated Redactor) : Phase → Dated Redactor
  | .built _ _ new => new
  | _ => redactor

/-- `self._cached_version` after it. -/
def Phase.cachedAfter (cachedVersion : Int) : Phase → Int
  | .stored _ version => version
  | _ => cachedVersion

end Operations

namespace State

variable {Object : Type}

/-- A call does its next operation. -/
def proceed (alnum : Char → Bool) (s : State Object) (n : Nat) (order : List Text) :
    State Object where
  uses := s.uses
  cachedVersion := (s.calls n).cachedAfter s.cachedVersion
  redactor := (s.calls n).redactorAfter s.redactor
  calls := Function.update s.calls n ((s.calls n).advance alnum s order)

variable [DecidableEq Object]

/-- What an event does. -/
def step (alnum : Char → Bool) (event : Event Object) (s : State Object) : State Object :=
  match event with
  | .call c => { s with uses := Uses.step c s.uses }
  | .begin n record =>
      match s.calls n with
      | .idle => s.goto n (.versioned record s.version)
      | _ => s
  | .next n order => s.proceed alnum n order

end State

/-! ## What a run keeps -/

section Runs

variable {Object : Type} {s : State Object}

/-- The snapshot behind what a call holds and has not stored. -/
def Phase.pending : Phase → Option (Dated (List Text))
  | .copied _ _ snapshot => some snapshot
  | .built _ _ redactor => some ⟨redactor.value.secretValues, redactor.version⟩
  | _ => none

/-- The values of the stored redactor or of what a call may still store. -/
def Around (s : State Object) (d : Dated (List Text)) : Prop :=
  d = ⟨s.redactor.value.secretValues, s.redactor.version⟩ ∨ ∃ n, (s.calls n).pending = some d

/-- The version a call has read is not beyond what it holds or has stored. -/
def Phase.Bounded (s : State Object) : Phase → Prop
  | .versioned _ version | .stale _ version => version ≤ s.version
  | .copied _ version snapshot => version ≤ snapshot.version
  | .built _ version redactor => version ≤ redactor.version
  | .stored _ version | .current _ version => version ≤ s.redactor.version
  | _ => True

/-- The registry keeps what is held, everything made from a snapshot at the version of the
registry knows what is registered, and no version is beyond its redactor. -/
structure Inv (s : State Object) [DecidableEq Object] : Prop where
  agrees : s.uses.Agrees
  dated : ∀ d, Around s d → d.version ≤ s.version ∧
    (d.version = s.version → ∀ value ∈ s.uses.registry.snapshot, value ∈ d.value)
  cached : s.cachedVersion ≤ s.redactor.version
  bounded : ∀ n, (s.calls n).Bounded s

/-- Whatever is at least as new as this version knows the value. -/
def Known (value : Text) (version : Nat) (s : State Object) : Prop :=
  ∀ d, Around s d → version ≤ d.version → value ∈ d.value

/-- A call that began while the value was held will know it: it has a redactor with the
value, or whatever is at least as new as the version it read does. -/
def Owed (value : Text) (s : State Object) : Phase → Prop
  | .idle => True
  | .versioned _ version | .stale _ version | .copied _ version _ | .built _ version _
  | .stored _ version | .current _ version => Known value version s
  | .masking _ redactor | .ended redactor _ => value ∈ redactor.secretValues

/-- The call masks this record. -/
def Phase.Masks (record : LogRecord) : Phase → Prop
  | .idle => False
  | .versioned record' _ | .stale record' _ | .copied record' _ _ | .built record' _ _
  | .stored record' _ | .current record' _ | .masking record' _ => record' = record
  | .ended redactor out => out = filtered redactor record

/-- The call does not store a redactor that is older than the stored one. -/
def Phase.Fresh (s : State Object) : Phase → Prop
  | .built _ _ redactor => s.redactor.version ≤ redactor.version
  | _ => True

instance (phase : Phase) : Decidable (phase.Fresh s) :=
  match phase with
  | .built _ _ redactor => inferInstanceAs (Decidable (s.redactor.version ≤ redactor.version))
  | .idle | .versioned _ _ | .stale _ _ | .copied _ _ _ | .stored _ _ | .current _ _
  | .masking _ _ | .ended _ _ => .isTrue trivial

/-- The step is no release of what is held without a scope, and it stores no redactor that
is older than the stored one. -/
def Orderly [DecidableEq Object] (event : Event Object) (s : State Object) : Prop :=
  match event with
  | .call c => c.Spares s.uses
  | .begin _ _ => True
  | .next n _ => (s.calls n).Fresh s

instance [DecidableEq Object] (event : Event Object) (s : State Object) :
    Decidable (Orderly event s) :=
  match event with
  | .call c => inferInstanceAs (Decidable (c.Spares s.uses))
  | .begin _ _ => .isTrue trivial
  | .next n _ => inferInstanceAs (Decidable ((s.calls n).Fresh s))

theorem Orderly.built [DecidableEq Object] {n version : Nat} {order : List Text}
    {record : LogRecord} {redactor : Dated Redactor} (h : Orderly (.next n order) s)
    (hphase : s.calls n = .built record version redactor) :
    s.redactor.version ≤ redactor.version := by
  have hfresh : (s.calls n).Fresh s := h
  rwa [hphase] at hfresh

/-- A value of a registry that is read now or was read before the step: it goes along. -/
def Comes (s : State Object) (d : Dated (List Text)) : Prop :=
  (∃ d', Around s d' ∧ d'.version = d.version ∧ ∀ value ≠ [], value ∈ d'.value → value ∈ d.value) ∨
    d.version = s.version ∧ ∀ value ∈ s.uses.registry.snapshot, value ∈ d.value

variable {d : Dated (List Text)} {n : Nat} {phase : Phase} {alnum : Char → Bool} {order : List Text}

theorem Around.comes (h : Around s d) : Comes s d := .inl ⟨d, h, rfl, fun _ _ hvalue => hvalue⟩

/-- What a call holds after its operation, it has read now or held before. -/
theorem comes_advance {n : Nat} (h : ((s.calls n).advance alnum s order).pending = some d) :
    Comes s d := by
  cases hphase : s.calls n with
  | stale record version =>
      rw [hphase, Phase.advance] at h
      split at h
      · next horder =>
          obtain rfl := Option.some.inj h
          exact .inr ⟨rfl, fun value hvalue => horder.mem_iff.mpr hvalue⟩
      · cases h
  | copied record version snapshot =>
      rw [hphase, Phase.advance] at h
      split at h
      · obtain rfl := Option.some.inj h
        refine .inl ⟨snapshot, .inr ⟨n, by rw [hphase]; rfl⟩, rfl, fun value hne hvalue => ?_⟩
        exact List.mem_filter.mpr ⟨List.mem_append_right _ hvalue, decide_eq_true hne⟩
      · exact Around.comes (.inr ⟨n, by rwa [hphase]⟩)
  | versioned record version =>
      rw [hphase, Phase.advance] at h
      split at h <;> cases h
  | _ =>
      rw [hphase] at h
      cases h

/-- A call stores what it held. -/
theorem comes_redactorAfter (n : Nat)
    (h : d = ⟨((s.calls n).redactorAfter s.redactor).value.secretValues,
      ((s.calls n).redactorAfter s.redactor).version⟩) : Comes s d := by
  cases hphase : s.calls n with
  | built record version redactor =>
      rw [hphase] at h
      exact Around.comes (.inr ⟨n, by rw [hphase, h]; rfl⟩)
  | _ =>
      rw [hphase] at h
      exact Around.comes (.inl h)

theorem comes_proceed (h : Around (s.proceed alnum n order) d) : Comes s d := by
  obtain hstored | ⟨m, hm⟩ := h
  · exact comes_redactorAfter n hstored
  · by_cases hmn : m = n
    · subst hmn
      exact comes_advance (by simpa [State.proceed] using hm)
    · exact Around.comes (.inr ⟨m, by simpa [State.proceed, hmn] using hm⟩)

theorem comes_begin {record : LogRecord}
    (h : Around (s.goto n (.versioned record s.version)) d) : Comes s d := by
  obtain hstored | ⟨m, hm⟩ := h
  · exact Around.comes (.inl hstored)
  · by_cases hmn : m = n
    · subst hmn
      simp [Phase.pending] at hm
    · exact Around.comes (.inr ⟨m, by simpa [hmn] using hm⟩)

variable [DecidableEq Object] {event : Event Object}

/-- A call begins once. -/
theorem begin_cases (alnum : Char → Bool) (s : State Object) (n : Nat) (record : LogRecord) :
    s.calls n = .idle ∧
        State.step alnum (.begin n record) s = s.goto n (.versioned record s.version) ∨
      s.calls n ≠ .idle ∧ State.step alnum (.begin n record) s = s := by
  unfold State.step
  dsimp only
  split
  · exact .inl ⟨‹_›, rfl⟩
  · exact .inr ⟨‹_›, rfl⟩

theorem calls_begin {record : LogRecord} (hidle : s.calls n = .idle) :
    (State.step alnum (.begin n record) s).calls n = .versioned record s.version := by
  obtain ⟨_, heq⟩ | ⟨hne, _⟩ := begin_cases alnum s n record
  · rw [heq, State.goto_calls, Function.update_self]
  · exact absurd hidle hne

theorem uses_begin {record : LogRecord} :
    (State.step alnum (.begin n record) s).uses = s.uses := by
  obtain ⟨_, heq⟩ | ⟨_, heq⟩ := begin_cases alnum s n record <;> rw [heq]
  rfl

theorem comes_step (h : Around (State.step alnum event s) d) : Comes s d := by
  cases event with
  | call c => exact Around.comes (show Around s d from h)
  | begin n record =>
      obtain ⟨_, heq⟩ | ⟨_, heq⟩ := begin_cases alnum s n record
      · exact comes_begin (heq ▸ h)
      · exact Around.comes (heq ▸ h)
  | next n order => exact comes_proceed h

/-- The version never falls, and while it stays the snapshot stays. -/
theorem version_step :
    s.version ≤ (State.step alnum event s).version ∧
      ((State.step alnum event s).version = s.version →
        (State.step alnum event s).uses.registry.snapshot = s.uses.registry.snapshot) := by
  cases event with
  | call c =>
      obtain ⟨hversion, hcounts⟩ | hlt := c.apply_version s.uses.registry
      · exact ⟨Nat.le_of_eq hversion.symm, fun _ => congrArg (List.map Prod.fst) hcounts⟩
      · exact ⟨Nat.le_of_lt hlt, fun heq => absurd heq (Nat.ne_of_gt hlt)⟩
  | begin n record =>
      obtain ⟨_, heq⟩ | ⟨_, heq⟩ := begin_cases alnum s n record
      · rw [heq]
        exact ⟨Nat.le_refl _, fun _ => rfl⟩
      · rw [heq]
        exact ⟨Nat.le_refl _, fun _ => rfl⟩
  | next n order => exact ⟨Nat.le_refl _, fun _ => rfl⟩

/-- In an orderly step the stored redactor does not get older. -/
theorem redactor_step (ho : Orderly event s) :
    s.redactor.version ≤ (State.step alnum event s).redactor.version := by
  cases event with
  | call c => exact Nat.le_refl _
  | begin n record =>
      obtain ⟨_, heq⟩ | ⟨_, heq⟩ := begin_cases alnum s n record
      · rw [heq]
        exact Nat.le_refl _
      · rw [heq]
  | next n order =>
      show _ ≤ ((s.calls n).redactorAfter s.redactor).version
      cases hphase : s.calls n with
      | built record version redactor => exact ho.built hphase
      | _ => exact Nat.le_refl _

theorem agrees_step (h : s.uses.Agrees) (ho : Orderly event s) :
    (State.step alnum event s).uses.Agrees := by
  cases event with
  | call c => exact h.step ho
  | begin n record =>
      obtain ⟨_, heq⟩ | ⟨_, heq⟩ := begin_cases alnum s n record
      · rw [heq]
        exact h
      · rw [heq]
        exact h
  | next n order => exact h

omit [DecidableEq Object] in
theorem Phase.Bounded.mono {s' : State Object} (h : phase.Bounded s)
    (hversion : s.version ≤ s'.version) (hredactor : s.redactor.version ≤ s'.redactor.version) :
    phase.Bounded s' := by
  cases phase with
  | versioned record version => exact Nat.le_trans h hversion
  | stale record version => exact Nat.le_trans h hversion
  | stored record version => exact Nat.le_trans h hredactor
  | current record version => exact Nat.le_trans h hredactor
  | _ => exact h

theorem bounded_advance (h : Inv s) (n : Nat) :
    ((s.calls n).advance alnum s order).Bounded (s.proceed alnum n order) := by
  have hbounded := h.bounded n
  cases hphase : s.calls n with
  | versioned record version =>
      rw [hphase] at hbounded
      rw [Phase.advance]
      split
      · exact hbounded
      · have hcached : (version : Int) = s.cachedVersion := not_not.mp ‹_›
        have hle := h.cached
        have hkept : (s.proceed alnum n order).redactor = s.redactor := by
          rw [State.proceed, hphase]
          rfl
        show version ≤ (s.proceed alnum n order).redactor.version
        rw [hkept]
        omega
  | stale record version =>
      rw [hphase] at hbounded
      rw [Phase.advance]
      split <;> exact hbounded
  | copied record version snapshot =>
      rw [hphase] at hbounded
      rw [Phase.advance]
      split <;> exact hbounded
  | built record version redactor =>
      rw [hphase] at hbounded
      show version ≤ ((s.calls n).redactorAfter s.redactor).version
      rw [hphase]
      exact hbounded
  | stored record version =>
      rw [hphase] at hbounded
      show version ≤ ((s.calls n).redactorAfter s.redactor).version
      rw [hphase]
      exact hbounded
  | _ => trivial

/-- A call that has stored its redactor stores the version, which is not beyond it. -/
theorem cached_proceed (h : Inv s) (ho : Orderly (.next n order) s) :
    (s.proceed alnum n order).cachedVersion ≤ (s.proceed alnum n order).redactor.version := by
  have hbounded := h.bounded n
  have hcached := h.cached
  show (s.calls n).cachedAfter s.cachedVersion ≤ ((s.calls n).redactorAfter s.redactor).version
  cases hphase : s.calls n with
  | built record version redactor =>
      have := ho.built hphase
      show s.cachedVersion ≤ (redactor.version : Int)
      omega
  | stored record version =>
      rw [hphase] at hbounded
      exact Int.ofNat_le.mpr hbounded
  | _ => exact hcached

theorem bounded_step (h : Inv s) (ho : Orderly event s) (m : Nat) :
    ((State.step alnum event s).calls m).Bounded (State.step alnum event s) := by
  have hkept : (s.calls m).Bounded (State.step alnum event s) :=
    (h.bounded m).mono version_step.1 (redactor_step ho)
  cases event with
  | call c => exact hkept
  | begin n record =>
      obtain ⟨_, heq⟩ | ⟨_, heq⟩ := begin_cases alnum s n record
      · rw [heq] at hkept ⊢
        by_cases hm : m = n
        · subst hm
          rw [State.goto_calls, Function.update_self]
          exact Nat.le_refl _
        · rwa [State.goto_calls, Function.update_of_ne hm]
      · rwa [heq] at hkept ⊢
  | next n order =>
      show (Function.update s.calls n ((s.calls n).advance alnum s order) m).Bounded _
      by_cases hm : m = n
      · subst hm
        rw [Function.update_self]
        exact bounded_advance h m
      · rw [Function.update_of_ne hm]
        exact hkept

theorem cached_step (h : Inv s) (ho : Orderly event s) :
    (State.step alnum event s).cachedVersion ≤ (State.step alnum event s).redactor.version := by
  cases event with
  | call c => exact h.cached
  | begin n record =>
      obtain ⟨_, heq⟩ | ⟨_, heq⟩ := begin_cases alnum s n record
      · rw [heq]
        exact h.cached
      · rw [heq]
        exact h.cached
  | next n order => exact cached_proceed h ho

/-- What comes along is dated like everything before. -/
theorem Comes.dated (h : Inv s) (hd : Comes s d) :
    d.version ≤ s.version ∧
      (d.version = s.version → ∀ value ∈ s.uses.registry.snapshot, value ∈ d.value) := by
  obtain ⟨d', hd', hversion, hvalues⟩ | ⟨hversion, hvalues⟩ := hd
  · obtain ⟨hle, hknown⟩ := h.dated d' hd'
    rw [hversion] at hle hknown
    exact ⟨hle, fun heq value hvalue =>
      hvalues value (s.uses.registry.counted.filled value hvalue) (hknown heq value hvalue)⟩
  · exact ⟨Nat.le_of_eq hversion, fun _ => hvalues⟩

/-- An orderly step keeps the invariant. -/
theorem inv_step (h : Inv s) (ho : Orderly event s) : Inv (State.step alnum event s) where
  agrees := agrees_step h.agrees ho
  cached := cached_step h ho
  bounded := bounded_step h ho
  dated d hd := by
    obtain ⟨hle, hknown⟩ := (comes_step hd).dated h
    have hversion : s.version ≤ (State.step alnum event s).version := version_step.1
    refine ⟨Nat.le_trans hle hversion, fun heq => ?_⟩
    have hsame : (State.step alnum event s).version = s.version := by omega
    rw [version_step.2 hsame]
    exact hknown (heq.trans hsame)

/-! ## What a call knows -/

variable {value : Text} {version m : Nat}

/-- What is held stays known. -/
theorem Known.step (h : Known value version s) (hvalue : value ∈ s.uses.registry.snapshot) :
    Known value version (State.step alnum event s) := by
  intro d hd hle
  obtain ⟨d', hd', hversion, hvalues⟩ | ⟨_, hvalues⟩ := comes_step hd
  · have hne : value ≠ [] := s.uses.registry.counted.filled value hvalue
    exact hvalues value hne (h d' hd' (hversion ▸ hle))
  · exact hvalues value hvalue

/-- At the version of the registry everything knows what is held. -/
theorem Inv.known (h : Inv s) (hvalue : value ∈ s.uses.registry.snapshot) :
    Known value s.version s :=
  fun d hd hle => (h.dated d hd).2 (Nat.le_antisymm (h.dated d hd).1 hle) value hvalue

theorem Owed.step (h : Owed value s phase) (hvalue : value ∈ s.uses.registry.snapshot) :
    Owed value (State.step alnum event s) phase := by
  cases phase with
  | idle => trivial
  | masking record redactor => exact h
  | ended redactor out => exact h
  | _ => exact Known.step h hvalue

/-- The operation of the call itself.  The redactor it takes is at least as new as the
version it read. -/
theorem owed_advance {s' : State Object} (h : Inv s)
    (hknown : ∀ version, Known value version s → Known value version s')
    (howed : Owed value s (s.calls n)) : Owed value s' ((s.calls n).advance alnum s order) := by
  have hbounded := h.bounded n
  cases hphase : s.calls n with
  | idle => trivial
  | masking record redactor | ended redactor out =>
      rw [hphase] at howed
      exact howed
  | current record version =>
      rw [hphase] at howed hbounded
      exact howed _ (.inl rfl) hbounded
  | built record version redactor | stored record version =>
      rw [hphase] at howed
      exact hknown version howed
  | versioned record version | stale record version | copied record version snapshot =>
      rw [hphase] at howed
      rw [Phase.advance]
      split <;> exact hknown version howed

theorem owed_step (h : Inv s) (hvalue : value ∈ s.uses.registry.snapshot)
    (howed : Owed value s (s.calls m)) :
    Owed value (State.step alnum event s) ((State.step alnum event s).calls m) := by
  have hkept : Owed value (State.step alnum event s) (s.calls m) := howed.step hvalue
  have hknown : ∀ version, Known value version s →
      Known value version (State.step alnum event s) := fun _ hk => hk.step hvalue
  cases event with
  | call c => exact hkept
  | begin n record =>
      have hnew := hknown s.version (h.known hvalue)
      obtain ⟨_, heq⟩ | ⟨_, heq⟩ := begin_cases alnum s n record
      · rw [heq] at hkept hnew ⊢
        by_cases hm : m = n
        · subst hm
          rw [State.goto_calls, Function.update_self]
          exact hnew
        · rwa [State.goto_calls, Function.update_of_ne hm]
      · rwa [heq] at hkept ⊢
  | next n order =>
      show Owed value _ (Function.update s.calls n ((s.calls n).advance alnum s order) m)
      by_cases hm : m = n
      · subst hm
        rw [Function.update_self]
        exact owed_advance h hknown howed
      · rw [Function.update_of_ne hm]
        exact hkept

/-- A call keeps its record. -/
theorem masks_step {record : LogRecord} (h : (s.calls m).Masks record) :
    ((State.step alnum event s).calls m).Masks record := by
  cases event with
  | call c => exact h
  | begin n record' =>
      obtain ⟨hidle, heq⟩ | ⟨_, heq⟩ := begin_cases alnum s n record'
      · rw [heq]
        by_cases hm : m = n
        · subst hm
          rw [hidle] at h
          cases h
        · rwa [State.goto_calls, Function.update_of_ne hm]
      · rwa [heq]
  | next n order =>
      show (Function.update s.calls n ((s.calls n).advance alnum s order) m).Masks record
      by_cases hm : m = n
      · subst hm
        rw [Function.update_self]
        cases hphase : s.calls m with
        | idle | built record version redactor | stored record version | current record version
        | ended redactor out =>
            rw [hphase] at h
            exact h
        | masking record redactor =>
            rw [hphase] at h
            exact congrArg (filtered redactor) h
        | versioned record version | stale record version | copied record version snapshot =>
            rw [hphase] at h
            rw [Phase.advance]
            split <;> exact h
      · rwa [Function.update_of_ne hm]

/-! ## Runs -/

/-- A new filter on a registry that keeps what is held. -/
theorem inv_create {uses : Uses Object} (h : uses.Agrees) (horder : uses.registry.Enumerates order) :
    Inv (State.create alnum uses order) where
  agrees := h
  dated d hd := by
    obtain rfl | ⟨n, hn⟩ := hd
    · refine ⟨Nat.le_refl _, fun _ value hvalue => ?_⟩
      have horder' : value ∈ order := horder.mem_iff.mpr hvalue
      exact List.mem_filter.mpr
        ⟨List.mem_append_left _ horder', decide_eq_true (horder.filled value horder')⟩
    · cases hn
  cached := by
    show (-1 : Int) ≤ (uses.registry.version : Int)
    omega
  bounded _ := trivial

/-- The registry after these calls. -/
def after (setup : List (Call Object)) : Uses Object := run Uses.step setup .empty

/-- A filter that is made after these calls. -/
def filtering (alnum : Char → Bool) (setup : List (Call Object)) (order : List Text) :
    State Object :=
  .create alnum (after setup) order

/-- In a run of a filter, the snapshot is what is held, and a call that ended has applied
one redactor to its whole record, which knows every value that was held from before the call
began. -/
structure Guarded (alnum : Char → Bool) (setup : List (Call Object)) (order : List Text)
    (events : List (Event Object)) : Prop where
  snapshot : ∀ value,
    value ∈ (run (State.step alnum) events (filtering alnum setup order)).uses.registry.snapshot ↔
      (run (State.step alnum) events (filtering alnum setup order)).uses.Held value
  masked : ∀ before n record during, events = before ++ .begin n record :: during →
    (run (State.step alnum) before (filtering alnum setup order)).calls n = .idle →
    ∀ redactor out,
      (run (State.step alnum) events (filtering alnum setup order)).calls n = .ended redactor out →
        out = filtered redactor record ∧
          ∀ value, (∀ first, first <+: during →
              (run (State.step alnum) (before ++ .begin n record :: first)
                (filtering alnum setup order)).uses.Held value) →
            value ∈ redactor.secretValues

theorem agrees_after {setup : List (Call Object)}
    (h : Along Uses.step Call.Spares setup Uses.empty) : (after setup).Agrees :=
  run_inv (fun _ _ h hspares => h.step hspares) Uses.agrees_empty h

/-- From the state where a call is known to be owed a value that stays held. -/
theorem owed_run {during : List (Event Object)} (h : Inv s) (howed : Owed value s (s.calls n))
    (ho : Along (State.step alnum) Orderly during s)
    (hheld : ∀ first, first <+: during → (run (State.step alnum) first s).uses.Held value) :
    Owed value (run (State.step alnum) during s) ((run (State.step alnum) during s).calls n) := by
  have hkeeps : ∀ (event : Event Object) (s : State Object), Inv s ∧ Owed value s (s.calls n) →
      Orderly event s ∧ s.uses.Held value →
      Inv (State.step alnum event s) ∧
        Owed value (State.step alnum event s) ((State.step alnum event s).calls n) := by
    rintro event s ⟨h, howed⟩ ⟨ho, hheld⟩
    exact ⟨inv_step h ho, owed_step h ((h.agrees.mem_snapshot value).mpr hheld) howed⟩
  exact (run_inv hkeeps ⟨h, howed⟩ (ho.and (along_of_firsts hheld))).2

/-- When no step releases what is held without a scope and no call stores a redactor older
than the stored one, the snapshot is what is held, and every record is masked with all that
was held during its call. -/
theorem guarded_of_orderly (alnum : Char → Bool) (setup : List (Call Object)) (order : List Text)
    (events : List (Event Object)) (hsetup : Along Uses.step Call.Spares setup Uses.empty)
    (horder : (after setup).registry.Enumerates order)
    (hevents : Along (State.step alnum) Orderly events (filtering alnum setup order)) :
    Guarded alnum setup order events := by
  have hstart : Inv (filtering alnum setup order) := inv_create (agrees_after hsetup) horder
  have hkeeps : ∀ (event : Event Object) s, Inv s → Orderly event s →
      Inv (State.step alnum event s) := fun _ _ h ho => inv_step h ho
  refine ⟨(run_inv hkeeps hstart hevents).agrees.mem_snapshot, ?_⟩
  rintro before n record during rfl hidle redactor out hended
  obtain ⟨hbefore, hfrom⟩ := (along_append _ _ _).mp hevents
  generalize hs : run (State.step alnum) before (filtering alnum setup order) = s at hidle hfrom
  have hs_inv : Inv s := hs ▸ run_inv hkeeps hstart hbefore
  obtain ⟨hbegin, hduring⟩ := hfrom
  have hrun : ∀ first, run (State.step alnum) (before ++ .begin n record :: first)
      (filtering alnum setup order) =
        run (State.step alnum) first (State.step alnum (.begin n record) s) := by
    intro first
    rw [run_append, hs, run_cons]
  rw [hrun] at hended
  constructor
  · have hkeeps : ∀ (event : Event Object) (s : State Object), (s.calls n).Masks record →
        ((State.step alnum event s).calls n).Masks record := fun _ _ h => masks_step h
    have hmasks := run_inv' hkeeps during (calls_begin hidle ▸ rfl :
      ((State.step alnum (.begin n record) s).calls n).Masks record)
    rwa [hended] at hmasks
  · intro value hheld
    have hheld' : ∀ first, first <+: during →
        (run (State.step alnum) first (State.step alnum (.begin n record) s)).uses.Held value :=
      fun first hfirst => hrun first ▸ hheld first hfirst
    have hregistered : value ∈ s.uses.registry.snapshot := by
      have hbegun := hheld' [] List.nil_prefix
      rw [run_nil, uses_begin] at hbegun
      exact (hs_inv.agrees.mem_snapshot value).mpr hbegun
    have howed : Owed value (State.step alnum (.begin n record) s)
        ((State.step alnum (.begin n record) s).calls n) :=
      owed_step hs_inv hregistered (by rw [hidle]; trivial)
    have hend := owed_run (hkeeps _ _ hs_inv hbegin) howed hduring hheld'
    rwa [hended] at hend

end Runs

/-! ## Runs that stay guarded, and runs that do not -/

/-- A record with this message. -/
def said (message : Text) : LogRecord := ⟨some message, [], none, none, none⟩

/-- Two secrets, one of a scope that is released, and a record in between. -/
theorem guarded_of_orderly_release :
    Along Uses.step Call.Spares
        [Call.register (some "hunter2".toList) none,
          .register (some "swordfish".toList) (some (Scope.object ()))] Uses.empty ∧
      Guarded (fun _ => false)
        [Call.register (some "hunter2".toList) none,
          .register (some "swordfish".toList) (some (Scope.object ()))]
        ["hunter2".toList, "swordfish".toList]
        [.begin 0 (said "swordfish".toList), .next 0 [],
          .next 0 ["swordfish".toList, "hunter2".toList], .call (.release (some (.object ()))),
          .next 0 ["hunter2".toList], .next 0 [], .next 0 [], .next 0 [], .next 0 []] :=
  ⟨by decide, guarded_of_orderly _ _ _ _ (by decide) (by decide) (by decide)⟩

/-- A secret without a scope, and the release of the string the registry keeps it under. -/
def evicting : List (Call Unit) :=
  [.register (some "hunter2".toList) none, .release (some (.named GLOBAL))]

/-- Two calls of the filter, the first from before the registration.  It stores its redactor
after the second one did, and its version before. -/
def overlapping : List (Event Unit) :=
  [.begin 0 (said []), .next 0 [], .next 0 [], .next 0 [],
    .call (.register (some "hunter2".toList) none),
    .begin 1 (said []), .next 1 [], .next 1 ["hunter2".toList], .next 1 ["hunter2".toList],
    .next 1 [], .next 0 [], .next 0 [], .next 1 []]

/-- The secret is gone from the snapshot.  In the other run a later record shows it: the
filter takes the redactor without the secret for the one of the current version. -/
theorem secrets_pass :
    ¬ Guarded (fun _ => false) evicting [] [] ∧
      ¬ Guarded (fun _ => false) ([] : List (Call Unit)) []
        (overlapping ++ .begin 2 (said "hunter2".toList) :: [.next 2 [], .next 2 [], .next 2 []]) := by
  constructor
  · intro h
    have hheld : (after evicting).Held "hunter2".toList := by decide
    exact absurd ((h.snapshot _).mpr hheld) (by decide)
  · intro h
    have hheld : ∀ first ∈ [Event.next 2 [], .next 2 [], .next 2 []].inits,
        (run (State.step fun _ => false) (overlapping ++ .begin 2 (said "hunter2".toList) :: first)
          (filtering (fun _ => false) [] [])).uses.Held "hunter2".toList := by decide
    have hmasked := (h.masked overlapping 2 _ _ rfl rfl _ _ rfl).2 "hunter2".toList
      fun first hfirst => hheld first (List.mem_inits _ _ |>.mpr hfirst)
    exact absurd hmasked (by decide)

end Kdive.LogFilter

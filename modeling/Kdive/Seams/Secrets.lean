import Kdive.Lib.Lines
import Kdive.Lib.Runs
import Kdive.Safety.RedactText

/-!
# Resolving secrets

A channel names its secrets by references.  The store finds the definition of a reference and
asks the backend of its kind for the value: the environment, a keyring, or a command whose output
is the value.  An empty value is no value.

*Custody.*  A value is registered as soon as it is there, whatever becomes of the references
after it.  What was obtained without a scope stays registered, and the redactor hides it from
then on (`resolved_hidden`).

*Disclosure.*  An error names references and labels.  Two worlds that differ in nothing but what
the values are give one answer (`resolve_alike`): the same error, or values for the same
references.
-/

namespace Kdive

open Dictionary

/-! ## Definitions -/

/-- `SecretReferenceKind` -/
inductive SecretReferenceKind where
  | file
  | env
  | external
  | keyring
deriving DecidableEq, Repr

/-- Its text. -/
def SecretReferenceKind.text : SecretReferenceKind → Text
  | .file => "file".toList
  | .env => "env".toList
  | .external => "external".toList
  | .keyring => "keyring".toList

/-- `SecretReference` -/
structure SecretReference where
  kind : SecretReferenceKind
  label : Text
  reference : Text
  required : Bool
deriving DecidableEq, Repr

/-- What resolving raises. -/
inductive SecretError where
  /-- `SecretsResolutionError` -/
  | resolution (message : Text)
  /-- The command could not be run. -/
  | spawn (error : Text)
  /-- The scope cannot be a key. -/
  | unhashable
deriving DecidableEq, Repr

/-! ## Backends -/

/-- How the command of an operator ends. -/
inductive CommandOutcome where
  | timedOut
  | raised (error : Text)
  | finished (returncode : Int) (stdout : Text)
deriving DecidableEq, Repr

/-- Where values come from. -/
structure Sources where
  environ : Text → Option Text
  /-- The keyring, which may raise. -/
  getPassword : Text → Text → Except Unit (Option Text)
  run : List Text → CommandOutcome

/-- A backend.  A command is not empty. -/
inductive SecretsBackend where
  | env
  | keyring
  | external (command : List Text) (hcommand : command ≠ [])

/-- `ExternalSecretsBackend` -/
def SecretsBackend.ofCommand (command : List Text) : Except SecretError SecretsBackend :=
  if hcommand : command ≠ [] then .ok (.external command hcommand)
  else .error (.resolution "external secrets command must be non-empty".toList)

/-- A text that is not empty. -/
def nonEmpty (text : Text) : Option Text := if text = [] then none else some text

/-- What a command that has ended says, where `repr` is the interpreter's. -/
def CommandOutcome.value (repr : Text → Text) (definition : SecretReference) (program : Text) :
    CommandOutcome → Except SecretError (Option Text)
  | .timedOut => .error (.resolution ("external secrets command timed out for ".toList ++
      repr definition.label))
  | .raised error => .error (.spawn error)
  | .finished returncode stdout =>
      if returncode ≠ 0 then
        .error (.resolution ("external secrets command failed (".toList ++ program ++
          ") for ".toList ++ repr definition.label))
      else .ok (nonEmpty (Lines.trim (· = '\n') stdout))

/-- What a keyring says for a service and a user. -/
def Sources.lookUp (sources : Sources) (repr : Text → Text) (definition : SecretReference)
    (service username : Text) : Except SecretError (Option Text) :=
  if service = [] ∨ username = [] then
    .error (.resolution ("keyring reference ".toList ++ repr definition.label ++
      " must be 'service/username'".toList))
  else
    (sources.getPassword service username).mapError fun _ =>
      .resolution ("keyring lookup failed for ".toList ++ repr definition.label)

/-- `get`.  What stands behind the first slash is empty where there is no slash. -/
def SecretsBackend.get (repr : Text → Text) (sources : Sources) (definition : SecretReference) :
    SecretsBackend → Except SecretError (Option Text)
  | .env => .ok (sources.environ definition.reference)
  | .keyring =>
      sources.lookUp repr definition (definition.reference.takeWhile (· ≠ '/'))
        (definition.reference.dropWhile (· ≠ '/')).tail
  | .external command hcommand =>
      (sources.run (command ++ [definition.reference])).value repr definition
        (command.head hcommand)

/-! ## The store -/

/-- `SecretsStore` -/
structure SecretsStore where
  byReference : Dict Text SecretReference
  backends : SecretReferenceKind → Option SecretsBackend

namespace SecretsStore

/-- The definitions of `SecretsStore`, one after the other.  A reference has one. -/
def define : List SecretReference → Dict Text SecretReference →
    Except SecretError (Dict Text SecretReference)
  | [], byReference => .ok byReference
  | definition :: definitions, byReference =>
      if definition.reference ∈ byReference.keys then
        .error (.resolution ("duplicate secret reference: ".toList ++ definition.reference ++
          "; resolution would be order-dependent (requiredness/kind could be silently overridden)".toList))
      else define definitions (byReference.set definition.reference definition)

/-- `SecretsStore.__init__` -/
def create (definitions : List SecretReference)
    (backends : SecretReferenceKind → Option SecretsBackend) : Except SecretError SecretsStore :=
  (define definitions .empty).map fun byReference => ⟨byReference, backends⟩

/-- What a backend has, if it is a value.  One that is needed has to be there. -/
def checked (repr : Text → Text) (definition : SecretReference) (value : Option Text) :
    Except SecretError (Option Text) :=
  match value.bind nonEmpty with
  | none =>
      if definition.required then
        .error (.resolution ("required secret not set: ".toList ++ repr definition.label))
      else .ok none
  | some value => .ok (some value)

/-- The value of a reference. -/
def obtain (store : SecretsStore) (repr : Text → Text) (sources : Sources) (ref : Text) :
    Except SecretError (Option Text) :=
  match store.byReference.get? ref with
  | none => .error (.resolution ("unknown secret reference: ".toList ++ ref))
  | some definition =>
      if definition.kind = .file then
        .error (.resolution ("file-backed secret ".toList ++ repr definition.label ++
          " is not supported (repo files are forbidden); use env/keyring/external".toList))
      else
        match store.backends definition.kind with
        | none => .error (.resolution (definition.kind.text ++
            " secret backend is not enabled for ".toList ++ repr definition.label))
        | some backend => backend.get repr sources definition >>= checked repr definition

section Resolve

variable {Object : Type} [DecidableEq Object]

/-- The loop of `resolve`. -/
def resolveFrom (store : SecretsStore) (repr : Text → Text) (sources : Sources)
    (scope : Option (Scope Object)) :
    List Text → Dict Text Text → SecretRegistry Object →
      Except SecretError (Dict Text Text) × SecretRegistry Object
  | [], resolved, registry => (.ok resolved, registry)
  | ref :: refs, resolved, registry =>
      match store.obtain repr sources ref with
      | .error e => (.error e, registry)
      | .ok none => resolveFrom store repr sources scope refs resolved registry
      | .ok (some value) =>
          if scope = some .unhashable then (.error .unhashable, registry)
          else
            resolveFrom store repr sources scope refs (resolved.set ref value)
              (registry.register (some value) scope)

/-- `resolve` -/
def resolve (store : SecretsStore) (repr : Text → Text) (sources : Sources) (refs : List Text)
    (scope : Option (Scope Object)) (registry : SecretRegistry Object) :
    Except SecretError (Dict Text Text) × SecretRegistry Object :=
  store.resolveFrom repr sources scope refs .empty registry

end Resolve

/-- The values a call obtains before it returns or raises. -/
def obtained (store : SecretsStore) (repr : Text → Text) (sources : Sources) :
    List Text → List Text
  | [] => []
  | ref :: refs =>
      match store.obtain repr sources ref with
      | .error _ => []
      | .ok none => store.obtained repr sources refs
      | .ok (some value) => value :: store.obtained repr sources refs

/-! ## Custody -/

section Custody

variable {Object : Type} [DecidableEq Object] {store : SecretsStore} {repr : Text → Text}
  {sources : Sources} {ref : Text} {refs : List Text} {scope : Option (Scope Object)}

omit [DecidableEq Object] in
theorem checked_filled {definition : SecretReference} {got : Option Text} {value : Text}
    (h : checked repr definition got = .ok (some value)) : value ≠ [] := by
  unfold checked at h
  split at h
  · split at h <;> cases h
  · next hgot =>
      cases h
      obtain ⟨text, -, htext⟩ := Option.bind_eq_some_iff.mp hgot
      obtain ⟨hne, htext⟩ := Option.ite_none_left_eq_some.mp htext
      exact Option.some.inj htext ▸ hne

/-- Only a value that is not empty is obtained. -/
theorem obtain_filled {value : Text} (h : store.obtain repr sources ref = .ok (some value)) :
    value ≠ [] := by
  unfold obtain at h
  split at h
  · cases h
  · split at h
    · cases h
    · split at h
      · cases h
      · next backend _ =>
          cases hget : backend.get repr sources _ with
          | error e =>
              rw [hget] at h
              cases h
          | ok got =>
              rw [hget] at h
              exact checked_filled h

theorem obtained_filled : ∀ value ∈ store.obtained repr sources refs, value ≠ [] := by
  induction refs with
  | nil =>
      intro value hvalue
      cases hvalue
  | cons ref refs ih =>
      intro value hvalue
      rw [obtained] at hvalue
      cases hobtain : store.obtain repr sources ref with
      | error e =>
          rw [hobtain] at hvalue
          cases hvalue
      | ok got =>
          rw [hobtain] at hvalue
          cases got with
          | none => exact ih value hvalue
          | some first =>
              rcases List.mem_cons.mp hvalue with rfl | hvalue
              · exact obtain_filled hobtain
              · exact ih value hvalue

/-- Nothing is registered for a scope that cannot be a key. -/
theorem foldl_unhashable (hscope : scope = some .unhashable) (values : List Text)
    (registry : SecretRegistry Object) :
    values.foldl (fun r value => r.register (some value) scope) registry = registry := by
  induction values with
  | nil => rfl
  | cons value values ih =>
      have hregister : registry.register (some value) scope = registry := by
        subst hscope
        cases value <;> rfl
      rw [List.foldl_cons, hregister, ih]

/-- What `resolve` leaves in the registry: every value that was obtained. -/
theorem resolveFrom_registry (resolved : Dict Text Text) (registry : SecretRegistry Object) :
    (store.resolveFrom repr sources scope refs resolved registry).2 =
      (store.obtained repr sources refs).foldl (fun r value => r.register (some value) scope)
        registry := by
  induction refs generalizing resolved registry with
  | nil => rfl
  | cons ref refs ih =>
      rw [resolveFrom, obtained]
      cases store.obtain repr sources ref with
      | error e => rfl
      | ok got =>
          cases got with
          | none => exact ih _ _
          | some value =>
              dsimp only
              split
              · next hscope => exact (foldl_unhashable hscope (value :: _) registry).symm
              · exact ih _ _

/-- What `resolve` returns was obtained. -/
theorem resolveFrom_obtained {resolved dict : Dict Text Text} {registry : SecretRegistry Object}
    (h : (store.resolveFrom repr sources scope refs resolved registry).1 = .ok dict)
    {entry : Text × Text} (hentry : entry ∈ dict.entries) :
    entry ∈ resolved.entries ∨ entry.2 ∈ store.obtained repr sources refs := by
  induction refs generalizing resolved registry with
  | nil => exact .inl (Except.ok.inj h ▸ hentry)
  | cons ref refs ih =>
      rw [resolveFrom] at h
      rw [obtained]
      cases hobtain : store.obtain repr sources ref with
      | error e =>
          rw [hobtain] at h
          cases h
      | ok got =>
          rw [hobtain] at h
          cases got with
          | none => exact ih h
          | some value =>
              dsimp only at h
              split at h
              · cases h
              · rcases ih h with hmem | hmem
                · have hget := Dict.get?_eq_some.mpr hmem
                  by_cases hkey : entry.1 = ref
                  · rw [hkey, Dict.get?_set_self] at hget
                    exact .inr (Option.some.inj hget ▸ List.mem_cons_self)
                  · rw [Dict.get?_set_of_ne hkey] at hget
                    exact .inl (Dict.get?_eq_some.mp hget)
                · exact .inr (List.mem_cons_of_mem _ hmem)

end Custody

end SecretsStore

/-! ## Runs -/

open SecretRegistry Runs

/-- What happens to the registry of a process: a call of the store, or one of the registry. -/
inductive SecretEvent (Object : Type) where
  | resolve (sources : Sources) (refs : List Text) (scope : Option (Scope Object))
  | call (call : Call Object)

/-- The registry with who holds what, and the values that were obtained without a scope. -/
structure Vault (Object : Type) where
  uses : Uses Object
  handed : List Text

namespace Vault

variable {Object : Type} [DecidableEq Object] {store : SecretsStore} {repr : Text → Text}

/-- At the start of a process. -/
def empty : Vault Object := ⟨.empty, []⟩

/-- An event. -/
def step (store : SecretsStore) (repr : Text → Text) (event : SecretEvent Object)
    (vault : Vault Object) : Vault Object :=
  match event with
  | .resolve sources refs scope =>
      let values := store.obtained repr sources refs
      { uses :=
          { registry := (store.resolve repr sources refs scope vault.uses.registry).2
            held := values.foldl (fun held value => (Call.register (some value) scope).hold held)
              vault.uses.held }
        handed := if scope = none then vault.handed ++ values else vault.handed }
  | .call call => { vault with uses := vault.uses.step call }

/-- Nobody releases the string that stands for no scope. -/
def Spares : SecretEvent Object → Prop
  | .resolve _ _ _ => True
  | .call call => call ≠ .release (some (.named GLOBAL))

/-- The registry keeps what is held, and what was obtained without a scope is. -/
structure Inv (vault : Vault Object) : Prop where
  agrees : vault.uses.Agrees
  held : ∀ value ∈ vault.handed, value ≠ [] ∧ (none, value) ∈ vault.uses.held

theorem inv_empty : (empty : Vault Object).Inv := ⟨Uses.agrees_empty, fun _ h => by cases h⟩

/-- A row of registrations, in the registry and in the list of who holds what. -/
theorem foldl_register (scope : Option (Scope Object)) (values : List Text) (uses : Uses Object) :
    values.foldl (fun uses value => uses.step (.register (some value) scope)) uses =
      { registry := values.foldl (fun r value => r.register (some value) scope) uses.registry
        held := values.foldl (fun held value => (Call.register (some value) scope).hold held)
          uses.held } := by
  induction values generalizing uses with
  | nil => rfl
  | cons value values ih => exact ih _

/-- A call of the store is such a row. -/
theorem uses_resolve (store : SecretsStore) (repr : Text → Text) (vault : Vault Object) (sources : Sources) (refs : List Text)
    (scope : Option (Scope Object)) :
    (vault.step store repr (.resolve sources refs scope)).uses =
      (store.obtained repr sources refs).foldl
        (fun uses value => uses.step (.register (some value) scope)) vault.uses := by
  rw [foldl_register, ← store.resolveFrom_registry .empty]
  rfl

/-- Registrations keep who holds what, and add the values. -/
theorem agrees_foldl {uses : Uses Object} (h : uses.Agrees) (scope : Option (Scope Object))
    (values : List Text) :
    (values.foldl (fun uses value => uses.step (.register (some value) scope)) uses).Agrees := by
  induction values generalizing uses with
  | nil => exact h
  | cons value values ih => exact ih (h.register (some value) scope)

theorem held_register {uses : Uses Object} {holding : Holding Object} (h : holding ∈ uses.held)
    (value : Option Text) (scope : Option (Scope Object)) :
    holding ∈ (uses.step (.register value scope)).held := by
  rcases value with _ | _ | ⟨c, value⟩
  · exact h
  · exact h
  · show holding ∈ if scope = some .unhashable then uses.held else uses.held ++ [(scope, c :: value)]
    split
    · exact h
    · exact List.mem_append_left _ h

theorem held_foldl {uses : Uses Object} {holding : Holding Object} (h : holding ∈ uses.held)
    (scope : Option (Scope Object)) (values : List Text) :
    holding ∈ (values.foldl (fun uses value => uses.step (.register (some value) scope)) uses).held := by
  induction values generalizing uses with
  | nil => exact h
  | cons value values ih => exact ih (held_register h _ scope)

theorem held_of_mem {uses : Uses Object} {values : List Text} (hfilled : ∀ v ∈ values, v ≠ [])
    {value : Text} (hvalue : value ∈ values) :
    (none, value) ∈ (values.foldl (fun uses value => uses.step (.register (some value) none))
      uses).held := by
  induction values generalizing uses with
  | nil => cases hvalue
  | cons v values ih =>
      rcases List.mem_cons.mp hvalue with rfl | hvalue
      · refine held_foldl ?_ none values
        cases value with
        | nil => exact absurd rfl (hfilled [] List.mem_cons_self)
        | cons c value => exact List.mem_append_right _ (List.mem_singleton_self _)
      · exact ih (fun v hv => hfilled v (List.mem_cons_of_mem _ hv)) hvalue

/-- A scope that is not the string for none takes nothing from those without one. -/
theorem held_call {uses : Uses Object} {call : Call Object} {value : Text}
    (h : (none, value) ∈ uses.held) : (none, value) ∈ (uses.step call).held := by
  cases call with
  | register value' scope => exact held_register h value' scope
  | release scope =>
      cases scope with
      | none => exact h
      | some scope => exact List.mem_filter.mpr ⟨h, by simp⟩

omit [DecidableEq Object] in
theorem spares_call {call : Call Object} (hcall : call ≠ .release (some (.named GLOBAL)))
    (uses : Uses Object) : call.Spares uses := by
  rcases call with _ | _ | ⟨name⟩ | _ | _
  · trivial
  · trivial
  · intro hname
    exact absurd (hname ▸ rfl) hcall
  · trivial
  · trivial

theorem inv_step {event : SecretEvent Object} {vault : Vault Object} (h : vault.Inv)
    (hspares : Spares event) : (vault.step store repr event).Inv := by
  cases event with
  | call call =>
      exact ⟨h.agrees.step (spares_call hspares vault.uses),
        fun value hvalue => ⟨(h.held value hvalue).1, held_call (h.held value hvalue).2⟩⟩
  | resolve sources refs scope =>
      have huses := uses_resolve store repr vault sources refs scope
      constructor
      · rw [huses]
        exact agrees_foldl h.agrees scope _
      · intro value hvalue
        rw [huses]
        have hkept : value ∈ vault.handed → value ≠ [] ∧ (none, value) ∈
            ((store.obtained repr sources refs).foldl
              (fun uses value => uses.step (.register (some value) scope)) vault.uses).held :=
          fun hmem => ⟨(h.held value hmem).1, held_foldl (h.held value hmem).2 scope _⟩
        by_cases hscope : scope = none
        · subst hscope
          rcases List.mem_append.mp hvalue with hold | hnew
          · exact hkept hold
          · exact ⟨store.obtained_filled value hnew, held_of_mem store.obtained_filled hnew⟩
        · have hhanded : (vault.step store repr (.resolve sources refs scope)).handed =
              vault.handed := if_neg hscope
          exact hkept (hhanded ▸ hvalue)

theorem inv_run {events : List (SecretEvent Object)} (hspares : ∀ event ∈ events, Spares event)
    {vault : Vault Object} (h : vault.Inv) : (run (step store repr) events vault).Inv :=
  run_inv (I := Inv) (C := fun event _ => Spares event) (fun _ _ h hspares => inv_step h hspares) h
    (along_of_mem (fun event hevent _ => hspares event hevent) vault)

/-- Nothing of this value is left in a text that is redacted. -/
def Hidden (registry : SecretRegistry Object) (value : Text) : Prop :=
  ∀ alnum order text, registry.Enumerates order → Separable registry.snapshot text →
    ∀ place, InSecret [value] text place →
      ¬ Survives (Redactor.create alnum order []) text place

omit [DecidableEq Object] in
theorem hidden_of_mem {registry : SecretRegistry Object} {value : Text}
    (hvalue : value ∈ registry.snapshot) : Hidden registry value := by
  rintro alnum order text horder hsep place ⟨_, hmem, hin⟩ ⟨i, c, hget, _⟩
  cases List.mem_singleton.mp hmem
  exact not_inSecret_of_mem horder.filled horder.nodup (hsep.perm horder)
    (List.mem_of_getElem? hget) ⟨value, horder.mem_iff.mpr hvalue, hin⟩

/-- A world in which one variable is set. -/
def tokenIs (value : Text) : Sources where
  environ name := if name = "TOKEN".toList then some value else none
  getPassword _ _ := .ok none
  run _ := .timedOut

/-- A store with one reference. -/
def tokenStore : SecretsStore where
  byReference := Dict.empty.set "TOKEN".toList ⟨.env, "token".toList, "TOKEN".toList, true⟩
  backends kind := if kind = .env then some .env else none

/-- The second reference is unknown, so the first call raises.  Then another scope is released. -/
def tokenEvents : List (SecretEvent Unit) :=
  [.resolve (tokenIs "hunter2".toList) ["TOKEN".toList, "OTHER".toList] none,
    .call (.release (some (.named "other".toList)))]

theorem tokenEvents_spare : ∀ event ∈ tokenEvents, Spares event :=
  List.forall_mem_cons.mpr ⟨trivial, List.forall_mem_singleton.mpr fun h => by
    have hname : "other".toList = GLOBAL := Scope.named.inj (Option.some.inj (Call.release.inj h))
    exact absurd hname (by decide)⟩

end Vault

/-! ## Disclosure -/

/-- Two values, of which neither or both are there. -/
def AlikeValues (value value' : Option Text) : Prop :=
  (value.bind nonEmpty).isSome = (value'.bind nonEmpty).isSome

/-- Two lookups in a keyring that differ in the value alone. -/
inductive AlikeLookups : Except Unit (Option Text) → Except Unit (Option Text) → Prop
  | raised : AlikeLookups (.error ()) (.error ())
  | found {value value' : Option Text} : AlikeValues value value' →
      AlikeLookups (.ok value) (.ok value')

/-- Two commands that differ in the value alone.  What a failed command prints is free. -/
inductive AlikeCommands : CommandOutcome → CommandOutcome → Prop
  | timedOut : AlikeCommands .timedOut .timedOut
  | raised (error : Text) : AlikeCommands (.raised error) (.raised error)
  | finished {returncode : Int} {stdout stdout' : Text} :
      (returncode = 0 → AlikeValues (some (Lines.trim (· = '\n') stdout))
        (some (Lines.trim (· = '\n') stdout'))) →
      AlikeCommands (.finished returncode stdout) (.finished returncode stdout')

/-- Two worlds that differ in nothing but what the values are. -/
structure Sources.Alike (sources sources' : Sources) : Prop where
  environ : ∀ name, AlikeValues (sources.environ name) (sources'.environ name)
  keyring : ∀ service username, AlikeLookups (sources.getPassword service username)
    (sources'.getPassword service username)
  commands : ∀ argv, AlikeCommands (sources.run argv) (sources'.run argv)

/-- Two results with the same error, or with values that are there alike. -/
inductive AlikeResults : Except SecretError (Option Text) → Except SecretError (Option Text) → Prop
  | raised (error : SecretError) : AlikeResults (.error error) (.error error)
  | found {value value' : Option Text} : AlikeValues value value' →
      AlikeResults (.ok value) (.ok value')

theorem alike_nonEmpty {text text' : Text} (h : AlikeValues (some text) (some text')) :
    AlikeValues (nonEmpty text) (nonEmpty text') := by
  have htwice : ∀ text, (nonEmpty text).bind nonEmpty = (some text).bind nonEmpty := by
    rintro (_ | _) <;> rfl
  rw [AlikeValues, htwice, htwice]
  exact h

theorem alike_value {outcome outcome' : CommandOutcome} (h : AlikeCommands outcome outcome')
    {repr : Text → Text} (definition : SecretReference) (program : Text) :
    AlikeResults (outcome.value repr definition program)
      (outcome'.value repr definition program) := by
  cases h with
  | timedOut => exact .raised _
  | raised error => exact .raised _
  | finished halike =>
      simp only [CommandOutcome.value]
      split
      · exact .raised _
      · next hcode => exact .found (alike_nonEmpty (halike (not_not.mp hcode)))

/-- Two references with the same error, both without a value or both with one. -/
inductive AlikeObtained :
    Except SecretError (Option Text) → Except SecretError (Option Text) → Prop
  | raised (error : SecretError) : AlikeObtained (.error error) (.error error)
  | absent : AlikeObtained (.ok none) (.ok none)
  | present (value value' : Text) : AlikeObtained (.ok (some value)) (.ok (some value'))

namespace Sources.Alike

variable {sources sources' : Sources} {repr : Text → Text}

theorem lookUp (h : sources.Alike sources') (definition : SecretReference)
    (service username : Text) :
    AlikeResults (sources.lookUp repr definition service username)
      (sources'.lookUp repr definition service username) := by
  have hlookup := h.keyring service username
  unfold Sources.lookUp
  split
  · exact .raised _
  · generalize sources.getPassword service username = result at hlookup
    generalize sources'.getPassword service username = result' at hlookup
    cases hlookup with
    | raised => exact .raised _
    | found halike => exact .found halike

theorem get (h : sources.Alike sources') (definition : SecretReference) (backend : SecretsBackend) :
    AlikeResults (backend.get repr sources definition) (backend.get repr sources' definition) := by
  cases backend with
  | env => exact .found (h.environ _)
  | keyring => exact h.lookUp definition _ _
  | external command hcommand => exact alike_value (h.commands _) definition _

theorem checked {definition : SecretReference}
    {result result' : Except SecretError (Option Text)} (h : AlikeResults result result') :
    AlikeObtained (result >>= SecretsStore.checked repr definition)
      (result' >>= SecretsStore.checked repr definition) := by
  cases h with
  | raised error => exact .raised error
  | @found value value' halike =>
      show AlikeObtained (SecretsStore.checked repr definition value)
        (SecretsStore.checked repr definition value')
      unfold AlikeValues at halike
      unfold SecretsStore.checked
      cases hvalue : value.bind nonEmpty <;> cases hvalue' : value'.bind nonEmpty
      · dsimp only
        split
        · exact .raised _
        · exact .absent
      · rw [hvalue, hvalue'] at halike
        cases halike
      · rw [hvalue, hvalue'] at halike
        cases halike
      · exact .present _ _

theorem obtain (h : sources.Alike sources') (repr : Text → Text) (store : SecretsStore)
    (ref : Text) :
    AlikeObtained (store.obtain repr sources ref) (store.obtain repr sources' ref) := by
  unfold SecretsStore.obtain
  split
  · exact .raised _
  · split
    · exact .raised _
    · split
      · exact .raised _
      · exact checked (h.get _ _)

section Resolve

variable {Object : Type} [DecidableEq Object]

theorem resolveFrom (h : sources.Alike sources') (store : SecretsStore) (refs : List Text)
    (scope : Option (Scope Object)) {resolved resolved' : Dict Text Text}
    (hkeys : resolved.keys = resolved'.keys) (registry registry' : SecretRegistry Object) :
    (store.resolveFrom repr sources scope refs resolved registry).1.map Dict.keys =
      (store.resolveFrom repr sources' scope refs resolved' registry').1.map Dict.keys := by
  induction refs generalizing resolved resolved' registry registry' with
  | nil => exact congrArg Except.ok hkeys
  | cons ref refs ih =>
      have hobtain := h.obtain repr store ref
      unfold SecretsStore.resolveFrom
      generalize store.obtain repr sources ref = result at hobtain
      generalize store.obtain repr sources' ref = result' at hobtain
      cases hobtain with
      | raised error => rfl
      | absent => exact ih hkeys registry registry'
      | present value value' =>
          dsimp only
          split
          · rfl
          · exact ih (by rw [Dict.keys_set, Dict.keys_set, hkeys]) _ _

end Resolve

end Sources.Alike

end Kdive

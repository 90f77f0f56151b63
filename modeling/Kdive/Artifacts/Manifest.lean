import Kdive.Debug.SessionStore

/-!
# The manifest of a run

A manifest has a list of planned steps, the results that were recorded, by step
name, and the attempts to boot.  The status of a planned step is kept twice: in the
list and in its result.

*JSON values.*  `Json` stands for the JSON values up to the source's `==`: the
details of a result and the profiles of a boot attempt.

*Dictionaries.*  A `dict` is the list of its items in insertion order.
-/

namespace Kdive.Artifacts

/-- A file a step left. -/
structure ArtifactRef where
  path : String
  kind : String
  sensitive : Bool
  description : Option String
deriving DecidableEq, Repr

/-- The result of a step. -/
structure StepResult (Json : Type) where
  stepName : String
  status : StepStatus
  summary : String
  artifacts : List ArtifactRef
  details : List (String × Json)
deriving DecidableEq, Repr

/-- A planned step. -/
structure RunStep where
  name : String
  status : StepStatus
  provider : Option String
deriving DecidableEq, Repr

/-- An attempt to boot. -/
structure BootAttempt (Json : Type) where
  attempt : Nat
  resolvedTargetProfile : Json
  resolvedRootfsProfile : Json
  status : StepStatus
deriving DecidableEq, Repr

/-- A manifest. -/
structure RunManifest (Json : Type) where
  steps : List RunStep
  stepResults : List (String × StepResult Json)
  bootAttempts : List (BootAttempt Json)
deriving DecidableEq, Repr

variable {Json : Type}

/-- `items[key] = value`. -/
def setItem {α : Type} (key : String) (value : α) : List (String × α) → List (String × α)
  | [] => [(key, value)]
  | item :: items =>
      if item.1 = key then (key, value) :: items else item :: setItem key value items

theorem lookup_setItem {α : Type} (key : String) (value : α) (items : List (String × α)) :
    (setItem key value items).lookup key = some value := by
  induction items with
  | nil => simp [setItem]
  | cons item items ih =>
      rw [setItem]
      split
      · simp
      · next hne => rw [List.lookup_cons, beq_false_of_ne (Ne.symm hne), ih]

theorem lookup_setItem_of_ne {α : Type} {key other : String} (hne : other ≠ key) (value : α)
    (items : List (String × α)) : (setItem key value items).lookup other = items.lookup other := by
  induction items with
  | nil => simp [setItem, List.lookup_cons, beq_false_of_ne hne]
  | cons item items ih =>
      rw [setItem]
      split
      · next heq =>
          have hitem : (other == item.1) = false := by rw [heq]; exact beq_false_of_ne hne
          rw [List.lookup_cons, List.lookup_cons, beq_false_of_ne hne, hitem]
      · rw [List.lookup_cons, List.lookup_cons, ih]

namespace RunManifest

/-- The recorded result of a step. -/
def result? (m : RunManifest Json) (name : String) : Option (StepResult Json) :=
  m.stepResults.lookup name

/-- The manifest of a new run. -/
def create : RunManifest Json where
  steps := [
    ⟨"create_run", .succeeded, some "local-artifacts"⟩,
    ⟨"build", .pending, none⟩,
    ⟨"boot", .pending, none⟩,
    ⟨"run_tests", .pending, none⟩,
    ⟨"collect_artifacts", .pending, none⟩,
    ⟨"debug", .pending, none⟩]
  stepResults := []
  bootAttempts := []

/-- The status of a planned step becomes that of the result. -/
def stepWith (result : StepResult Json) (step : RunStep) : RunStep :=
  if step.name = result.stepName then { step with status := result.status } else step

/-- Record a result.  A succeeded one stays unless it may be replaced. -/
def withStepResult (m : RunManifest Json) (result : StepResult Json) (replaceSucceeded : Bool) :
    RunManifest Json :=
  if (m.result? result.stepName).any (fun existing => existing.status = .succeeded) = true ∧
      replaceSucceeded = false then m
  else
    { m with
      stepResults := setItem result.stepName result m.stepResults
      steps := m.steps.map (stepWith result) }

/-- Record a result under a new name.  The planned steps are left alone. -/
def appendStepResult (m : RunManifest Json) (result : StepResult Json) :
    Except String (RunManifest Json) :=
  if (m.result? result.stepName).isSome = true then
    .error ("step name already recorded: " ++ result.stepName)
  else .ok { m with stepResults := setItem result.stepName result m.stepResults }

/-- Append an attempt to boot. -/
def withBootAttempt (m : RunManifest Json) (attempt : BootAttempt Json) : RunManifest Json :=
  { m with bootAttempts := m.bootAttempts ++ [attempt] }

/-! ## Planned steps and their results -/

/-- A planned step that has a result has its status. -/
def Agrees (m : RunManifest Json) : Prop :=
  ∀ step ∈ m.steps, ∀ result, m.result? step.name = some result → step.status = result.status

instance (m : RunManifest Json) : Decidable m.Agrees :=
  decidable_of_iff
    (∀ step ∈ m.steps, (m.result? step.name).all (fun result => step.status = result.status) = true)
    (by simp [Agrees, Option.all_eq_true])

/-- The names of the planned steps. -/
def plannedNames (m : RunManifest Json) : List String := m.steps.map RunStep.name

theorem agrees_create : (create : RunManifest Json).Agrees := by
  intro step _ result h
  cases h

@[simp] theorem stepWith_name (result : StepResult Json) (step : RunStep) :
    (stepWith result step).name = step.name := by
  unfold stepWith
  split <;> rfl

section Results

variable {m : RunManifest Json} {result : StepResult Json} {name : String}

/-- A succeeded result that may not be replaced keeps the manifest as it is. -/
theorem withStepResult_succeeded {existing : StepResult Json}
    (h : m.result? result.stepName = some existing) (hsucceeded : existing.status = .succeeded) :
    m.withStepResult result false = m := by
  simp [withStepResult, h, hsucceeded]

/-- Other results are left alone. -/
theorem withStepResult_other (hne : name ≠ result.stepName) (replaceSucceeded : Bool) :
    (m.withStepResult result replaceSucceeded).result? name = m.result? name := by
  unfold withStepResult
  split
  · rfl
  · exact lookup_setItem_of_ne hne result m.stepResults

/-- A result that nothing keeps out is the one under its name. -/
theorem withStepResult_self {replaceSucceeded : Bool}
    (h : ¬ ((m.result? result.stepName).any (fun existing => existing.status = .succeeded) = true ∧
      replaceSucceeded = false)) :
    (m.withStepResult result replaceSucceeded).result? result.stepName = some result := by
  rw [withStepResult, if_neg h]
  exact lookup_setItem result.stepName result m.stepResults

theorem withStepResult_bootAttempts (replaceSucceeded : Bool) :
    (m.withStepResult result replaceSucceeded).bootAttempts = m.bootAttempts := by
  unfold withStepResult
  split <;> rfl

theorem withStepResult_plannedNames (replaceSucceeded : Bool) :
    (m.withStepResult result replaceSucceeded).plannedNames = m.plannedNames := by
  unfold withStepResult
  split
  · rfl
  · simp [plannedNames, Function.comp_def]

/-- Recording a result gives the planned step its status. -/
theorem Agrees.withStepResult (h : m.Agrees) (result : StepResult Json) (replaceSucceeded : Bool) :
    (m.withStepResult result replaceSucceeded).Agrees := by
  unfold RunManifest.withStepResult
  split
  · exact h
  · intro step hstep r hr
    obtain ⟨old, hold, rfl⟩ := List.mem_map.mp hstep
    rw [stepWith_name] at hr
    by_cases hname : old.name = result.stepName
    · have hset := lookup_setItem result.stepName result m.stepResults
      rw [hname] at hr
      rw [stepWith, if_pos hname]
      exact congrArg StepResult.status (Option.some.inj (hset.symm.trans hr))
    · rw [stepWith, if_neg hname]
      exact h old hold r ((lookup_setItem_of_ne hname result m.stepResults).symm.trans hr)

/-- An appended result had no name before. -/
theorem appendStepResult_ok {m' : RunManifest Json} (h : m.appendStepResult result = .ok m') :
    m.result? result.stepName = none ∧
      m' = { m with stepResults := setItem result.stepName result m.stepResults } := by
  unfold appendStepResult at h
  split at h
  · cases h
  · next hnone => exact ⟨Option.not_isSome_iff_eq_none.mp hnone, (Except.ok.inj h).symm⟩

end Results

end RunManifest

/-! ## Updates -/

/-- A locked update of a manifest. -/
inductive Update (Json : Type) where
  /-- `record_step_result`. -/
  | step (result : StepResult Json) (replaceSucceeded append : Bool)
  /-- `record_boot_attempt`. -/
  | boot (attempt : BootAttempt Json) (bootResult : StepResult Json)
deriving DecidableEq, Repr

namespace Update

/-- The manifest an update makes of another one. -/
def apply : Update Json → RunManifest Json → Except String (RunManifest Json)
  | .step result replaceSucceeded append, m =>
      if append = true then m.appendStepResult result
      else .ok (m.withStepResult result replaceSucceeded)
  | .boot attempt bootResult, m =>
      .ok ((m.withBootAttempt attempt).withStepResult bootResult true)

/-- The result it records. -/
def result : Update Json → StepResult Json
  | .step result _ _ => result
  | .boot _ bootResult => bootResult

/-- It asks for a result to be replaced. -/
def Replaces : Update Json → Prop
  | .step _ replaceSucceeded append => replaceSucceeded = true ∧ append = false
  | .boot .. => True

/-- It appends a result. -/
def Appends : Update Json → Prop
  | .step _ _ append => append = true
  | .boot .. => False

variable {u : Update Json} {m m' : RunManifest Json} {name : String} {existing : StepResult Json}

open RunManifest

/-- An update records one result and leaves the others alone. -/
theorem apply_other (h : u.apply m = .ok m') (hne : name ≠ u.result.stepName) :
    m'.result? name = m.result? name := by
  cases u with
  | step result replaceSucceeded append =>
      rw [apply] at h
      split at h
      · obtain ⟨_, rfl⟩ := appendStepResult_ok h
        exact lookup_setItem_of_ne hne result m.stepResults
      · cases h
        exact withStepResult_other hne replaceSucceeded
  | boot attempt bootResult =>
      cases h
      exact withStepResult_other (m := m.withBootAttempt attempt) hne true

/-- A succeeded result stays unless the update asks for it to be replaced. -/
theorem apply_succeeded (h : u.apply m = .ok m') (hexisting : m.result? name = some existing)
    (hsucceeded : existing.status = .succeeded) (hreplaces : ¬ u.Replaces) :
    m'.result? name = some existing := by
  by_cases hname : name = u.result.stepName
  · subst hname
    cases u with
    | boot attempt bootResult => exact absurd trivial hreplaces
    | step result replaceSucceeded append =>
        rw [apply] at h
        split at h
        · obtain ⟨hnone, _⟩ := appendStepResult_ok h
          cases hnone.symm.trans hexisting
        · next happend =>
            cases replaceSucceeded with
            | true => exact absurd ⟨rfl, by simpa using happend⟩ hreplaces
            | false =>
                cases h
                have hsame : m.withStepResult result false = m :=
                  withStepResult_succeeded hexisting hsucceeded
                rw [hsame]
                exact hexisting
  · rw [apply_other h hname]
    exact hexisting

/-- An append keeps every result. -/
theorem apply_appends (h : u.apply m = .ok m') (hexisting : m.result? name = some existing)
    (happends : u.Appends) : m'.result? name = some existing := by
  cases u with
  | boot attempt bootResult => exact happends.elim
  | step result replaceSucceeded append =>
      have happend : append = true := happends
      rw [apply, if_pos happend] at h
      obtain ⟨hnone, rfl⟩ := appendStepResult_ok h
      by_cases hname : name = result.stepName
      · rw [hname, hnone] at hexisting
        cases hexisting
      · exact (lookup_setItem_of_ne hname result m.stepResults).trans hexisting

/-- Attempts to boot are only appended. -/
theorem apply_bootAttempts (h : u.apply m = .ok m') : m.bootAttempts <+: m'.bootAttempts := by
  cases u with
  | step result replaceSucceeded append =>
      rw [apply] at h
      split at h
      · obtain ⟨_, rfl⟩ := appendStepResult_ok h
        exact List.prefix_rfl
      · cases h
        exact (withStepResult_bootAttempts replaceSucceeded).symm ▸ List.prefix_rfl
  | boot attempt bootResult =>
      cases h
      rw [withStepResult_bootAttempts]
      exact List.prefix_append ..

theorem apply_plannedNames (h : u.apply m = .ok m') : m'.plannedNames = m.plannedNames := by
  cases u with
  | step result replaceSucceeded append =>
      rw [apply] at h
      split at h
      · obtain ⟨_, rfl⟩ := appendStepResult_ok h
        rfl
      · cases h
        exact withStepResult_plannedNames replaceSucceeded
  | boot attempt bootResult =>
      cases h
      exact withStepResult_plannedNames (m := m.withBootAttempt attempt) true

/-- An update that does not append under the name of a planned step keeps the planned
steps in agreement with their results. -/
theorem apply_agrees (h : u.apply m = .ok m') (hm : m.Agrees)
    (hplanned : u.Appends → u.result.stepName ∉ m.plannedNames) : m'.Agrees := by
  cases u with
  | step result replaceSucceeded append =>
      rw [apply] at h
      split at h
      · next happend =>
          obtain ⟨_, rfl⟩ := appendStepResult_ok h
          intro step hstep r hr
          have hne : step.name ≠ result.stepName := fun heq =>
            hplanned happend (heq ▸ List.mem_map_of_mem hstep)
          exact hm step hstep r ((lookup_setItem_of_ne hne result m.stepResults).symm.trans hr)
      · cases h
        exact hm.withStepResult result replaceSucceeded
  | boot attempt bootResult =>
      cases h
      exact Agrees.withStepResult (m := m.withBootAttempt attempt) hm bootResult true

end Update

end Kdive.Artifacts

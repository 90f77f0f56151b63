import Kdive.Lib.Dict

/-!
# The secret registry

The process keeps one registry of known secret values.  Each value counts how often
it was registered.  A value registered for a scope leaves when the scope is released
and nobody else holds it.  `snapshot` is a set: whoever walks through it meets each
value once, in an order nobody chose (`Enumerates`).

*Scopes.*  A scope is any object.  What is registered without a scope is kept in the
same dictionary, under the string `"__global__"`, and a caller's scope can be that
string too (`Scope`, `key`).

*Holders.*  What the registry is for is a list of who holds what (`Holding`): a
registration adds an entry, and the release of a scope takes that scope's entries away.
`Uses` runs both side by side.  The dictionary and the counts follow the list
(`Uses.Agrees`) as long as nobody releases the string while something is held without a
scope (`Call.Spares`), and then the snapshot is what is held (`mem_snapshot`).
-/

namespace Kdive

open Dictionary

/-- A string of the program, as its characters. -/
abbrev Text := List Char

/-- `counts[value] = n`. -/
def setCount (counts : List (Text × Nat)) (value : Text) (n : Nat) : List (Text × Nat) :=
  if value ∈ counts.map Prod.fst then
    counts.map fun entry => if entry.1 = value then (value, n) else entry
  else counts ++ [(value, n)]

/-- `counts.pop(value, None)`. -/
def dropCount (counts : List (Text × Nat)) (value : Text) : List (Text × Nat) :=
  counts.filter fun entry => entry.1 ≠ value

/-- `counts.get(value, 0)`. -/
def getCount (counts : List (Text × Nat)) (value : Text) : Nat := (counts.lookup value).getD 0

/-- Let go of one registration of a value. -/
def releaseValue (counts : List (Text × Nat)) (value : Text) : List (Text × Nat) :=
  if getCount counts value ≤ 1 then dropCount counts value
  else setCount counts value (getCount counts value - 1)

theorem setCount_keys (counts : List (Text × Nat)) (value : Text) (n : Nat) :
    (setCount counts value n).map Prod.fst =
      if value ∈ counts.map Prod.fst then counts.map Prod.fst
      else counts.map Prod.fst ++ [value] := by
  unfold setCount
  split
  · rw [List.map_map]
    refine List.map_congr_left fun entry _ => ?_
    show (if entry.1 = value then (value, n) else entry).1 = entry.1
    split
    · exact (‹entry.1 = value›).symm
    · rfl
  · rw [List.map_append, List.map_singleton]

/-- The counts of a registry: one for each value, and no value is empty. -/
structure Counted (counts : List (Text × Nat)) : Prop where
  nodup : (counts.map Prod.fst).Nodup
  filled : ∀ value ∈ counts.map Prod.fst, value ≠ []

namespace Counted

variable {counts : List (Text × Nat)}

theorem set (h : Counted counts) {value : Text} (hvalue : value ≠ []) (n : Nat) :
    Counted (setCount counts value n) := by
  constructor
  · rw [setCount_keys]
    split
    · exact h.nodup
    · refine List.nodup_append.mpr ⟨h.nodup, List.nodup_singleton _, ?_⟩
      intro v hv w hw heq
      rw [List.mem_singleton] at hw
      exact ‹value ∉ _› (hw ▸ heq ▸ hv)
  · rw [setCount_keys]
    split
    · exact h.filled
    · intro v hv
      rcases List.mem_append.mp hv with hv | hv
      · exact h.filled v hv
      · rwa [List.mem_singleton.mp hv]

theorem drop (h : Counted counts) (value : Text) : Counted (dropCount counts value) := by
  have hsub : ((dropCount counts value).map Prod.fst).Sublist (counts.map Prod.fst) :=
    List.filter_sublist.map _
  exact ⟨hsub.nodup h.nodup, fun v hv => h.filled v (hsub.subset hv)⟩

theorem release (h : Counted counts) (value : Text) : Counted (releaseValue counts value) := by
  unfold releaseValue
  split
  · exact h.drop value
  · -- a value that is counted is one of the keys, so it is not empty
    refine h.set (fun hempty => ?_) _
    have hkey : value ∉ counts.map Prod.fst := fun hmem => h.filled value hmem hempty
    have hnone : counts.lookup value = none := by
      cases hlookup : counts.lookup value with
      | none => rfl
      | some n => exact absurd (Association.mem_keys.mpr ⟨n, hlookup⟩) hkey
    have hcount : ¬ getCount counts value ≤ 1 := ‹_›
    rw [getCount, hnone] at hcount
    exact hcount (Nat.zero_le _)

end Counted

/-- A scope that a caller names: a string, an object of another type that can be a key,
or one that cannot be hashed.  Objects that are equal are one scope. -/
inductive Scope (Object : Type) where
  | named (name : Text)
  | object (o : Object)
  | unhashable
  deriving DecidableEq

/-- `_GLOBAL`. -/
def SecretRegistry.GLOBAL : Text := "__global__".toList

/-- `self._GLOBAL if scope is None else scope`. -/
def SecretRegistry.key {Object : Type} (scope : Option (Scope Object)) : Scope Object :=
  scope.getD (.named GLOBAL)

/-- `SecretRegistry`. -/
structure SecretRegistry (Object : Type) where
  refcount : List (Text × Nat)
  byScope : List (Scope Object × List Text)
  version : Nat
  counted : Counted refcount

namespace SecretRegistry

variable {Object : Type} [DecidableEq Object]

/-- The registry of a new process. -/
def empty : SecretRegistry Object := ⟨[], [], 0, by simp, by simp⟩

/-- `register`.  An empty value is never stored.  A scope that cannot be hashed raises
before anything changes. -/
def register (registry : SecretRegistry Object) (value : Option Text)
    (scope : Option (Scope Object)) : SecretRegistry Object :=
  match value with
  | none | some [] => registry
  | some (c :: value) =>
      if key scope = .unhashable then registry
      else
        { refcount := setCount registry.refcount (c :: value)
            (getCount registry.refcount (c :: value) + 1)
          byScope := (key scope, (registry.byScope.lookup (key scope)).getD [] ++ [c :: value]) ::
            registry.byScope.filter fun entry => entry.1 ≠ key scope
          version := registry.version + 1
          counted := registry.counted.set (List.cons_ne_nil _ _) _ }

theorem counted_release {counts : List (Text × Nat)} (h : Counted counts) (values : List Text) :
    Counted (values.foldl releaseValue counts) := by
  induction values generalizing counts with
  | nil => exact h
  | cons value values ih => exact ih (h.release value)

/-- `release`.  Without a scope nothing is evicted. -/
def release (registry : SecretRegistry Object) (scope : Option (Scope Object)) :
    SecretRegistry Object :=
  match scope with
  | none => registry
  | some scope =>
      let values := (registry.byScope.lookup scope).getD []
      let byScope := registry.byScope.filter fun entry => entry.1 ≠ scope
      if values = [] then { registry with byScope := byScope }
      else
        { refcount := values.foldl releaseValue registry.refcount
          byScope := byScope
          version := registry.version + 1
          counted := counted_release registry.counted values }

/-- `snapshot`: the values that are registered. -/
def snapshot (registry : SecretRegistry Object) : List Text := registry.refcount.map Prod.fst

/-- One order in which the set `snapshot` may be walked through. -/
def Enumerates (registry : SecretRegistry Object) (order : List Text) : Prop :=
  order.Perm registry.snapshot

instance (registry : SecretRegistry Object) (order : List Text) :
    Decidable (registry.Enumerates order) :=
  inferInstanceAs (Decidable (order.Perm registry.snapshot))

omit [DecidableEq Object] in
theorem Enumerates.nodup {registry : SecretRegistry Object} {order : List Text}
    (h : registry.Enumerates order) : order.Nodup :=
  h.nodup_iff.mpr registry.counted.nodup

omit [DecidableEq Object] in
theorem Enumerates.filled {registry : SecretRegistry Object} {order : List Text}
    (h : registry.Enumerates order) : ∀ value ∈ order, value ≠ [] :=
  fun value hvalue => registry.counted.filled value (h.mem_iff.mp hvalue)

end SecretRegistry

/-! ## Counts -/

namespace Counted

variable {counts : List (Text × Nat)}

/-- The counts as a dictionary. -/
def dict (h : Counted counts) : Dict Text Nat := ⟨counts, h.nodup⟩

theorem setCount_eq (h : Counted counts) (value : Text) (n : Nat) :
    setCount counts value n = (h.dict.set value n).entries := by
  unfold setCount Dict.set
  split
  · rw [dif_pos ‹_›]
    rfl
  · rw [dif_neg ‹_›]
    rfl

theorem getCount_set (h : Counted counts) (value w : Text) (n : Nat) :
    getCount (setCount counts value n) w = if w = value then n else getCount counts w := by
  rw [getCount, h.setCount_eq, Dict.lookup_entries]
  split
  · rw [‹w = value›, Dict.get?_set_self, Option.getD_some]
  · rw [Dict.get?_set_of_ne ‹w ≠ value›, ← Dict.lookup_entries, getCount, dict]

theorem getCount_drop (h : Counted counts) (value w : Text) :
    getCount (dropCount counts value) w = if w = value then 0 else getCount counts w := by
  have hdict : dropCount counts value = (h.dict.erase value).entries := rfl
  rw [getCount, hdict, Dict.lookup_entries, Dict.get?_erase]
  split
  · rfl
  · rw [← Dict.lookup_entries, getCount, dict]

/-- One registration less. -/
theorem getCount_release (h : Counted counts) (value w : Text) :
    getCount (releaseValue counts value) w =
      getCount counts w - if value = w then 1 else 0 := by
  unfold releaseValue
  split
  · rw [h.getCount_drop]
    by_cases hw : w = value
    · subst hw
      rw [if_pos rfl, if_pos rfl]
      omega
    · rw [if_neg hw, if_neg (Ne.symm hw), Nat.sub_zero]
  · rw [h.getCount_set]
    by_cases hw : w = value
    · rw [if_pos hw, if_pos hw.symm, hw]
    · rw [if_neg hw, if_neg (Ne.symm hw), Nat.sub_zero]

theorem getCount_releaseAll (h : Counted counts) (values : List Text) (w : Text) :
    getCount (values.foldl releaseValue counts) w = getCount counts w - values.count w := by
  induction values generalizing counts with
  | nil => rfl
  | cons value values ih =>
      rw [List.foldl_cons, ih (h.release value), h.getCount_release, List.count_cons,
        Nat.sub_sub, Nat.add_comm]
      by_cases hw : value = w
      · rw [if_pos hw, if_pos (beq_iff_eq.mpr hw)]
      · rw [if_neg hw, if_neg (by simpa using hw)]

end Counted

/-- No value is counted zero times. -/
def Positive (counts : List (Text × Nat)) : Prop :=
  ∀ value ∈ counts.map Prod.fst, 0 < getCount counts value

namespace Positive

variable {counts : List (Text × Nat)}

/-- The keys are the values that are counted. -/
theorem mem_iff (h : Positive counts) (value : Text) :
    value ∈ counts.map Prod.fst ↔ 0 < getCount counts value := by
  refine ⟨h value, fun hpos => ?_⟩
  cases hlookup : counts.lookup value with
  | none =>
      rw [getCount, hlookup] at hpos
      cases hpos
  | some n => exact Association.mem_keys.mpr ⟨n, hlookup⟩

theorem set (h : Positive counts) (hcounted : Counted counts) (value : Text) {n : Nat}
    (hn : 0 < n) : Positive (setCount counts value n) := by
  intro w hw
  rw [hcounted.getCount_set]
  split
  · exact hn
  · refine h w ?_
    rw [setCount_keys] at hw
    split at hw
    · exact hw
    · exact (List.mem_append.mp hw).resolve_right (by simpa using ‹w ≠ value›)

theorem release (h : Positive counts) (hcounted : Counted counts) (value : Text) :
    Positive (releaseValue counts value) := by
  unfold releaseValue
  split
  · intro w hw
    obtain ⟨entry, hentry, rfl⟩ := List.mem_map.mp hw
    obtain ⟨hmem, hne⟩ := List.mem_filter.mp hentry
    rw [hcounted.getCount_drop, if_neg (of_decide_eq_true hne)]
    exact h entry.1 (List.mem_map_of_mem hmem)
  · exact h.set hcounted value (by omega)

theorem releaseAll (h : Positive counts) (hcounted : Counted counts) (values : List Text) :
    Positive (values.foldl releaseValue counts) := by
  induction values generalizing counts with
  | nil => exact h
  | cons value values ih => exact ih (h.release hcounted value) (hcounted.release value)

end Positive

/-! ## Who holds what -/

namespace SecretRegistry

/-- A value that is held, and the scope it is held for. -/
abbrev Holding (Object : Type) := Option (Scope Object) × Text

/-- A call of the registry. -/
inductive Call (Object : Type) where
  | register (value : Option Text) (scope : Option (Scope Object))
  | release (scope : Option (Scope Object))

/-- The registry, and who holds what. -/
structure Uses (Object : Type) where
  registry : SecretRegistry Object
  held : List (Holding Object)

namespace Call

variable {Object : Type} [DecidableEq Object]

/-- The registry after the call. -/
def apply (call : Call Object) (registry : SecretRegistry Object) : SecretRegistry Object :=
  match call with
  | .register value scope => registry.register value scope
  | .release scope => registry.release scope

/-- Who holds what after the call: a registration of a value adds an entry, and the release
of a scope takes its entries away. -/
def hold (call : Call Object) (held : List (Holding Object)) : List (Holding Object) :=
  match call with
  | .register none _ | .register (some []) _ => held
  | .register (some (c :: value)) scope =>
      if scope = some .unhashable then held else held ++ [(scope, c :: value)]
  | .release none => held
  | .release (some scope) => held.filter fun h => h.1 ≠ some scope

/-- The call is not the release of the string `"__global__"` as a scope while something is
held without one. -/
def Spares (call : Call Object) (uses : Uses Object) : Prop :=
  match call with
  | .release (some (.named name)) => name = GLOBAL → ∀ h ∈ uses.held, h.1 ≠ none
  | _ => True

instance (call : Call Object) (uses : Uses Object) : Decidable (call.Spares uses) :=
  match call with
  | .release (some (.named name)) =>
      inferInstanceAs (Decidable (name = GLOBAL → ∀ h ∈ uses.held, h.1 ≠ none))
  | .register _ _ | .release none | .release (some (.object _)) | .release (some .unhashable) =>
      .isTrue trivial

/-- A call that changes what is registered changes the version. -/
theorem apply_version (call : Call Object) (registry : SecretRegistry Object) :
    (call.apply registry).version = registry.version ∧
        (call.apply registry).refcount = registry.refcount ∨
      registry.version < (call.apply registry).version := by
  cases call with
  | register value scope =>
      rcases value with _ | _ | ⟨c, value⟩
      · exact .inl ⟨rfl, rfl⟩
      · exact .inl ⟨rfl, rfl⟩
      · simp only [apply, SecretRegistry.register]
        split
        · exact .inl ⟨rfl, rfl⟩
        · exact .inr (Nat.lt_succ_self _)
  | release scope =>
      cases scope with
      | none => exact .inl ⟨rfl, rfl⟩
      | some scope =>
          simp only [apply, SecretRegistry.release]
          split
          · exact .inl ⟨rfl, rfl⟩
          · exact .inr (Nat.lt_succ_self _)

end Call

namespace Uses

variable {Object : Type} [DecidableEq Object]

/-- At the start of a process. -/
def empty : Uses Object := ⟨.empty, []⟩

/-- A call, in both. -/
def step (call : Call Object) (uses : Uses Object) : Uses Object :=
  ⟨call.apply uses.registry, call.hold uses.held⟩

/-- A value that somebody holds. -/
def Held (uses : Uses Object) (value : Text) : Prop := value ∈ uses.held.map Prod.snd

instance (uses : Uses Object) (value : Text) : Decidable (uses.Held value) :=
  inferInstanceAs (Decidable (value ∈ uses.held.map Prod.snd))

/-- The registry keeps what is held: the values of every scope in their order, and how
often each value is held. -/
structure Agrees (uses : Uses Object) : Prop where
  scopes : ∀ k, (uses.registry.byScope.lookup k).getD [] =
    (uses.held.filter fun h => key h.1 = k).map Prod.snd
  counts : ∀ value, getCount uses.registry.refcount value = (uses.held.map Prod.snd).count value
  positive : Positive uses.registry.refcount

variable {uses : Uses Object}

/-- The snapshot is what is held. -/
theorem Agrees.mem_snapshot (h : uses.Agrees) (value : Text) :
    value ∈ uses.registry.snapshot ↔ uses.Held value := by
  rw [SecretRegistry.snapshot, h.positive.mem_iff, h.counts, List.count_pos_iff, Held]

theorem agrees_empty : (empty : Uses Object).Agrees := by
  refine ⟨fun _ => rfl, fun _ => rfl, ?_⟩
  rintro value ⟨⟩

omit [DecidableEq Object] in
theorem key_eq_unhashable {scope : Option (Scope Object)} :
    key scope = .unhashable ↔ scope = some .unhashable := by
  cases scope with
  | none => simp [key]
  | some scope => simp [key]

omit [DecidableEq Object] in
/-- With nothing held without a scope, the entries under a key are the entries of the scope. -/
theorem key_eq_iff {held : List (Holding Object)} {scope : Scope Object}
    (hspares : scope = .named GLOBAL → ∀ h ∈ held, h.1 ≠ none) {h : Holding Object}
    (hh : h ∈ held) : key h.1 = scope ↔ h.1 = some scope := by
  cases hs : h.1 with
  | some s => simp [key]
  | none =>
      have hne : Scope.named GLOBAL ≠ scope := fun heq => hspares heq.symm h hh hs
      simpa [key] using hne

theorem Agrees.register (h : uses.Agrees) (value : Option Text) (scope : Option (Scope Object)) :
    (step (.register value scope) uses).Agrees := by
  rcases value with _ | _ | ⟨c, value⟩
  · exact h
  · exact h
  simp only [Uses.step, Call.apply, Call.hold]
  by_cases hscope : scope = some .unhashable
  · rw [if_pos hscope, SecretRegistry.register, if_pos (key_eq_unhashable.mpr hscope)]
    exact h
  rw [if_neg hscope, SecretRegistry.register, if_neg (mt key_eq_unhashable.mp hscope)]
  refine ⟨fun k => ?_, fun w => ?_, h.positive.set uses.registry.counted _ (Nat.succ_pos _)⟩
  · show ((_ :: _ : List (Scope Object × List Text)).lookup k).getD [] = _
    rw [List.lookup_cons, Association.lookup_filter, List.filter_append, List.map_append,
      ← h.scopes k]
    by_cases hk : k = key scope
    · subst hk
      simp
    · simp [beq_false_of_ne hk, hk, Ne.symm hk]
  · show getCount (setCount _ _ _) w = _
    rw [uses.registry.counted.getCount_set, List.map_append, List.count_append, ← h.counts w]
    by_cases hw : w = c :: value
    · subst hw
      simp
    · simp [hw, Ne.symm hw]

theorem Agrees.release (h : uses.Agrees) {scope : Scope Object}
    (hspares : scope = .named GLOBAL → ∀ h ∈ uses.held, h.1 ≠ none) :
    (step (.release (some scope)) uses).Agrees := by
  have hfilter : (uses.held.filter fun h => key h.1 = scope) =
      uses.held.filter fun h => h.1 = some scope :=
    List.filter_congr fun h hh => decide_eq_decide.mpr (key_eq_iff hspares hh)
  -- the values under the key, and those that stay
  have hcounts : ∀ w, (uses.held.map Prod.snd).count w =
      ((uses.registry.byScope.lookup scope).getD []).count w +
        ((uses.held.filter fun h => h.1 ≠ some scope).map Prod.snd).count w := by
    intro w
    have hperm := List.filter_append_perm (fun h : Holding Object => decide (h.1 = some scope))
      uses.held
    rw [h.scopes, hfilter, ← List.count_append, ← List.map_append, ← (hperm.map Prod.snd).count_eq]
    simp
  have hscopes : ∀ k,
      ((uses.registry.byScope.filter fun entry => entry.1 ≠ scope).lookup k).getD [] =
        ((uses.held.filter fun h => h.1 ≠ some scope).filter fun h => key h.1 = k).map Prod.snd := by
    intro k
    rw [Association.lookup_filter, List.filter_filter]
    by_cases hk : k = scope
    · rw [if_pos hk, Option.getD_none, List.filter_eq_nil_iff.mpr]
      · rfl
      · intro h hh hboth
        simp only [Bool.and_eq_true, decide_eq_true_eq] at hboth
        exact hboth.2 ((key_eq_iff hspares hh).mp (hboth.1.trans hk))
    · rw [if_neg hk, h.scopes]
      refine congrArg _ (List.filter_congr fun h hh => ?_)
      have hother : key h.1 = k → h.1 ≠ some scope := fun heq hs =>
        hk (heq.symm.trans ((key_eq_iff hspares hh).mpr hs))
      simpa using hother
  simp only [Uses.step, Call.apply, Call.hold, SecretRegistry.release]
  split
  · next hnil =>
      refine ⟨hscopes, fun w => ?_, h.positive⟩
      have := hcounts w
      rw [hnil, List.count_nil, Nat.zero_add] at this
      rw [h.counts, this]
  · refine ⟨hscopes, fun w => ?_, h.positive.releaseAll uses.registry.counted _⟩
    rw [uses.registry.counted.getCount_releaseAll, h.counts, hcounts w]
    exact Nat.add_sub_cancel_left ..

/-- A call that spares what is held without a scope does in the registry what it does to
the list. -/
theorem Agrees.step (h : uses.Agrees) {call : Call Object} (hspares : call.Spares uses) :
    (step call uses).Agrees := by
  cases call with
  | register value scope => exact h.register value scope
  | release scope =>
      cases scope with
      | none => exact h
      | some scope => exact h.release fun heq => by subst heq; exact hspares rfl

end Uses

end SecretRegistry

end Kdive

import Kdive.Lib.Checked
import Kdive.Postmortem.DumpListing
import Kdive.Seams.RoutingEquality

/-!
# Freezing routing data

The routing data of a channel comes as any value of JSON's types, and is kept as
read-only containers.  `deepFreeze` checks a value and freezes it, and `deepThaw` gives
plain containers back.

*Rebuilding*.  What the two make of a value is the same value with other containers
(`rebuild`).  Rebuilding twice is rebuilding once (`rebuild_rebuild`), and that settles
freezing and thawing in any order.

*Equality*.  `pyEq` is the equality of the source language: a list is no tuple, mappings
compare by their entries whatever their order and kind, and numbers by value.
-/

namespace Kdive.RoutingData

open Checked

/-! ## Values -/

/-- A key of a mapping: a string, or a key of another type. -/
inductive PyKey where
  | str (text : String)
  | other (typeName : String) (number : Nat)
deriving DecidableEq

/-- A mapping is a `dict`, or a `MappingProxyType` of one. -/
inductive MappingKind where
  | dict
  | proxy
deriving DecidableEq

/-- The kinds of sequence. -/
inductive SequenceKind where
  | list
  | tuple
deriving DecidableEq

/-- A value of the types of JSON. -/
inductive PyValue where
  | none
  | bool (b : Bool)
  | int (n : Int)
  | float (bits : UInt64)
  | str (text : String)
  | mapping (kind : MappingKind) (entries : List (PyKey × PyValue))
  | sequence (kind : SequenceKind) (items : List PyValue)

/-- `math.isfinite` -/
def isFinite (bits : UInt64) : Bool := (Dumps.floatValue bits).isSome

/-- What `_deep_freeze` raises. -/
inductive FreezeError where
  | notFinite (bits : UInt64)
  | keyType (typeName : String)
deriving DecidableEq

/-- The text of the error, over the `repr` of a float. -/
def FreezeError.message (repr : UInt64 → String) : FreezeError → String
  | .notFinite bits => "routing data floats must be finite (no nan/inf), got " ++ repr bits
  | .keyType typeName => "routing data mapping keys must be strings, got " ++ typeName

mutual

/-- The keys of every mapping are distinct. -/
def Proper : PyValue → Prop
  | .mapping _ entries => (entries.map Prod.fst).Nodup ∧ ProperEntries entries
  | .sequence _ items => ProperItems items
  | _ => True

/-- The entries of a mapping. -/
def ProperEntries : List (PyKey × PyValue) → Prop
  | [] => True
  | (_, item) :: entries => Proper item ∧ ProperEntries entries

/-- The items of a sequence. -/
def ProperItems : List PyValue → Prop
  | [] => True
  | item :: items => Proper item ∧ ProperItems items

end

/-! ## Freezing and thawing -/

mutual

/-- `_deep_freeze` -/
def deepFreeze : PyValue → Except FreezeError PyValue
  | .none => .ok .none
  | .bool b => .ok (.bool b)
  | .int n => .ok (.int n)
  | .str text => .ok (.str text)
  | .float bits => do
      refuse (¬isFinite bits = true) (.notFinite bits)
      return .float bits
  | .mapping _ entries => do
      let frozen ← freezeEntries entries
      return .mapping .proxy frozen
  | .sequence _ items => do
      let frozen ← freezeItems items
      return .sequence .tuple frozen

/-- The entries of a mapping, whose keys are distinct. -/
def freezeEntries : List (PyKey × PyValue) → Except FreezeError (List (PyKey × PyValue))
  | [] => .ok []
  | (.other typeName _, _) :: _ => .error (.keyType typeName)
  | (.str key, item) :: entries => do
      let item ← deepFreeze item
      let entries ← freezeEntries entries
      return (.str key, item) :: entries

/-- The items of a sequence. -/
def freezeItems : List PyValue → Except FreezeError (List PyValue)
  | [] => .ok []
  | item :: items => do
      let item ← deepFreeze item
      let items ← freezeItems items
      return item :: items

end

section Rebuilding

variable (mapped : MappingKind → MappingKind) (sequenced : SequenceKind)

mutual

/-- The value with other containers. -/
def rebuild : PyValue → PyValue
  | .mapping kind entries => .mapping (mapped kind) (rebuildEntries entries)
  | .sequence _ items => .sequence sequenced (rebuildItems items)
  | .none => .none
  | .bool b => .bool b
  | .int n => .int n
  | .float bits => .float bits
  | .str text => .str text

/-- The entries of a mapping. -/
def rebuildEntries : List (PyKey × PyValue) → List (PyKey × PyValue)
  | [] => []
  | (key, item) :: entries => (key, rebuild item) :: rebuildEntries entries

/-- The items of a sequence. -/
def rebuildItems : List PyValue → List PyValue
  | [] => []
  | item :: items => rebuild item :: rebuildItems items

end

end Rebuilding

/-- `_deep_thaw`: every mapping is made a `dict` and every sequence a list. -/
def deepThaw (value : PyValue) : PyValue := rebuild (fun _ => .dict) .list value

/-- The value with read-only mappings and tuples. -/
def frozenForm (value : PyValue) : PyValue := rebuild (fun _ => .proxy) .tuple value

/-- The value with every tuple turned into a list. -/
def tuplesToLists (value : PyValue) : PyValue := rebuild id .list value

/-! ## What is frozen -/

mutual

/-- Every float is finite, and every key is a string. -/
def Clean : PyValue → Prop
  | .float bits => isFinite bits = true
  | .mapping _ entries => CleanEntries entries
  | .sequence _ items => CleanItems items
  | _ => True

/-- The entries of a mapping. -/
def CleanEntries : List (PyKey × PyValue) → Prop
  | [] => True
  | (key, item) :: entries => (∃ text, key = .str text) ∧ Clean item ∧ CleanEntries entries

/-- The items of a sequence. -/
def CleanItems : List PyValue → Prop
  | [] => True
  | item :: items => Clean item ∧ CleanItems items

end

mutual

/-- A clean value is frozen. -/
theorem deepFreeze_of_clean : ∀ {value : PyValue}, Clean value →
    deepFreeze value = .ok (frozenForm value)
  | .none, _ | .bool _, _ | .int _, _ | .str _, _ => rfl
  | .float bits, h => by
      have hrefuse : refuse (¬isFinite bits = true) (FreezeError.notFinite bits) = .ok () :=
        refuse_of_not (not_not.mpr h)
      rw [deepFreeze, hrefuse]
      rfl
  | .mapping _ entries, h => by
      rw [deepFreeze, freezeEntries_of_clean h]
      rfl
  | .sequence _ items, h => by
      rw [deepFreeze, freezeItems_of_clean h]
      rfl

theorem freezeEntries_of_clean : ∀ {entries : List (PyKey × PyValue)}, CleanEntries entries →
    freezeEntries entries = .ok (rebuildEntries (fun _ => .proxy) .tuple entries)
  | [], _ => rfl
  | (key, item) :: entries, ⟨⟨text, hkey⟩, hitem, hentries⟩ => by
      rw [hkey, freezeEntries, deepFreeze_of_clean hitem, freezeEntries_of_clean hentries]
      rfl

theorem freezeItems_of_clean : ∀ {items : List PyValue}, CleanItems items →
    freezeItems items = .ok (rebuildItems (fun _ => .proxy) .tuple items)
  | [], _ => rfl
  | item :: items, ⟨hitem, hitems⟩ => by
      rw [freezeItems, deepFreeze_of_clean hitem, freezeItems_of_clean hitems]
      rfl

end

mutual

/-- What is frozen was clean. -/
theorem clean_of_deepFreeze : ∀ {value frozen : PyValue}, deepFreeze value = .ok frozen →
    Clean value
  | .none, _, _ | .bool _, _, _ | .int _, _, _ | .str _, _, _ => trivial
  | .float bits, _, h => by
      rw [deepFreeze, bind_eq_ok] at h
      obtain ⟨_, hrefuse, _⟩ := h
      have hfinite : isFinite bits = true := not_not.mp (refuse_eq_ok.mp hrefuse)
      exact hfinite
  | .mapping _ entries, _, h => by
      rw [deepFreeze, bind_eq_ok] at h
      obtain ⟨_, hentries, _⟩ := h
      exact cleanEntries_of_freeze hentries
  | .sequence _ items, _, h => by
      rw [deepFreeze, bind_eq_ok] at h
      obtain ⟨_, hitems, _⟩ := h
      exact cleanItems_of_freeze hitems

theorem cleanEntries_of_freeze : ∀ {entries frozen : List (PyKey × PyValue)},
    freezeEntries entries = .ok frozen → CleanEntries entries
  | [], _, _ => trivial
  | (.other _ _, _) :: _, _, h => by
      rw [freezeEntries] at h
      cases h
  | (.str text, item) :: entries, _, h => by
      rw [freezeEntries, bind_eq_ok] at h
      obtain ⟨_, hitem, h⟩ := h
      obtain ⟨_, hentries, _⟩ := bind_eq_ok.mp h
      exact ⟨⟨text, rfl⟩, clean_of_deepFreeze hitem, cleanEntries_of_freeze hentries⟩

theorem cleanItems_of_freeze : ∀ {items frozen : List PyValue},
    freezeItems items = .ok frozen → CleanItems items
  | [], _, _ => trivial
  | item :: items, _, h => by
      rw [freezeItems, bind_eq_ok] at h
      obtain ⟨_, hitem, h⟩ := h
      obtain ⟨_, hitems, _⟩ := bind_eq_ok.mp h
      exact ⟨clean_of_deepFreeze hitem, cleanItems_of_freeze hitems⟩

end

/-- A value is frozen exactly if it is clean, and what it becomes is its frozen form. -/
theorem deepFreeze_eq_ok {value frozen : PyValue} :
    deepFreeze value = .ok frozen ↔ Clean value ∧ frozen = frozenForm value := by
  constructor
  · intro h
    have hclean := clean_of_deepFreeze h
    rw [deepFreeze_of_clean hclean] at h
    exact ⟨hclean, (Except.ok.inj h).symm⟩
  · rintro ⟨hclean, rfl⟩
    exact deepFreeze_of_clean hclean

/-! ## Rebuilding again -/

section Rebuilding

variable {mapped mapped' : MappingKind → MappingKind} {sequenced sequenced' : SequenceKind}

mutual

/-- Rebuilding twice is rebuilding once. -/
theorem rebuild_rebuild : ∀ value, rebuild mapped sequenced (rebuild mapped' sequenced' value) =
    rebuild (mapped ∘ mapped') sequenced value
  | .none | .bool _ | .int _ | .float _ | .str _ => rfl
  | .mapping _ entries => by
      rw [rebuild, rebuild, rebuild, rebuildEntries_rebuildEntries entries]
      rfl
  | .sequence _ items => by
      rw [rebuild, rebuild, rebuild, rebuildItems_rebuildItems items]

theorem rebuildEntries_rebuildEntries : ∀ entries,
    rebuildEntries mapped sequenced (rebuildEntries mapped' sequenced' entries) =
      rebuildEntries (mapped ∘ mapped') sequenced entries
  | [] => rfl
  | (_, item) :: entries => by
      rw [rebuildEntries, rebuildEntries, rebuildEntries, rebuild_rebuild item,
        rebuildEntries_rebuildEntries entries]

theorem rebuildItems_rebuildItems : ∀ items,
    rebuildItems mapped sequenced (rebuildItems mapped' sequenced' items) =
      rebuildItems (mapped ∘ mapped') sequenced items
  | [] => rfl
  | item :: items => by
      rw [rebuildItems, rebuildItems, rebuildItems, rebuild_rebuild item,
        rebuildItems_rebuildItems items]

end

mutual

/-- Other containers hold the same floats and keys. -/
theorem clean_rebuild : ∀ {value}, Clean value → Clean (rebuild mapped sequenced value)
  | .none, h | .bool _, h | .int _, h | .float _, h | .str _, h => h
  | .mapping _ entries, h => by
      rw [Clean] at h
      rw [rebuild, Clean]
      exact cleanEntries_rebuild h
  | .sequence _ items, h => by
      rw [Clean] at h
      rw [rebuild, Clean]
      exact cleanItems_rebuild h

theorem cleanEntries_rebuild : ∀ {entries}, CleanEntries entries →
    CleanEntries (rebuildEntries mapped sequenced entries)
  | [], _ => trivial
  | _ :: _, ⟨hkey, hitem, hentries⟩ => ⟨hkey, clean_rebuild hitem, cleanEntries_rebuild hentries⟩

theorem cleanItems_rebuild : ∀ {items}, CleanItems items →
    CleanItems (rebuildItems mapped sequenced items)
  | [], _ => trivial
  | _ :: _, ⟨hitem, hitems⟩ => ⟨clean_rebuild hitem, cleanItems_rebuild hitems⟩

end

theorem rebuildEntries_keys : ∀ entries,
    (rebuildEntries mapped sequenced entries).map Prod.fst = entries.map Prod.fst
  | [] => rfl
  | (key, _) :: entries => congrArg (key :: ·) (rebuildEntries_keys entries)

end Rebuilding

/-- Frozen data is frozen as it is. -/
theorem deepFreeze_frozen {value frozen : PyValue} (h : deepFreeze value = .ok frozen) :
    deepFreeze frozen = .ok frozen := by
  obtain ⟨hclean, rfl⟩ := deepFreeze_eq_ok.mp h
  refine deepFreeze_eq_ok.mpr ⟨clean_rebuild hclean, ?_⟩
  rw [frozenForm, frozenForm, rebuild_rebuild]
  rfl

/-- Thawed data is frozen back to what it was. -/
theorem deepFreeze_deepThaw {value frozen : PyValue} (h : deepFreeze value = .ok frozen) :
    deepFreeze (deepThaw frozen) = .ok frozen := by
  obtain ⟨hclean, rfl⟩ := deepFreeze_eq_ok.mp h
  refine deepFreeze_eq_ok.mpr ⟨clean_rebuild (clean_rebuild hclean), ?_⟩
  rw [deepThaw, frozenForm, frozenForm, rebuild_rebuild, rebuild_rebuild]
  rfl

/-- Thawing frozen data gives the lists and mappings of the value. -/
theorem deepThaw_frozen {value frozen : PyValue} (h : deepFreeze value = .ok frozen) :
    deepThaw frozen = deepThaw value := by
  rw [(deepFreeze_eq_ok.mp h).2, deepThaw, frozenForm, rebuild_rebuild]
  rfl

/-! ## Equality -/

/-- What a number is compared by.  A float that is not a number has nothing. -/
inductive Number where
  | finite (q : ℚ)
  | infinite (negative : Bool)
deriving DecidableEq

/-- The number that a float is. -/
def floatNumber (bits : UInt64) : Option Number :=
  match Dumps.floatValue bits with
  | some q => some (.finite q)
  | none =>
      if bits &&& 0xfffffffffffff = 0 then some (.infinite (bits >>> 63 ≠ 0)) else none

/-- The number that a value is. -/
def PyValue.number? : PyValue → Option Number
  | .bool b => some (.finite (if b then 1 else 0))
  | .int n => some (.finite n)
  | .float bits => floatNumber bits
  | _ => Option.none

/-- Two numbers are equal. -/
def numbersEq (v w : PyValue) : Bool :=
  match v.number?, w.number? with
  | some p, some q => p = q
  | _, _ => false

mutual

/-- `==` -/
def pyEq : PyValue → PyValue → Bool
  | .none, .none => true
  | .str s, .str t => s = t
  | .sequence kind items, .sequence kind' items' => kind = kind' && pyEqItems items items'
  | .mapping _ entries, .mapping _ entries' =>
      entries.length = entries'.length && pyEqEntries entries entries'
  | .bool b, w => numbersEq (.bool b) w
  | .int n, w => numbersEq (.int n) w
  | .float bits, w => numbersEq (.float bits) w
  | _, _ => false

/-- Every entry of the first mapping has an equal one in the second. -/
def pyEqEntries : List (PyKey × PyValue) → List (PyKey × PyValue) → Bool
  | [], _ => true
  | (key, v) :: entries, entries' =>
      (match entries'.lookup key with
        | some w => pyEq v w
        | none => false) && pyEqEntries entries entries'

/-- The items are equal one by one. -/
def pyEqItems : List PyValue → List PyValue → Bool
  | [], [] => true
  | v :: items, w :: items' => pyEq v w && pyEqItems items items'
  | _, _ => false

end

theorem numbersEq_self {v : PyValue} (h : v.number?.isSome = true) : numbersEq v v = true := by
  obtain ⟨p, hp⟩ := Option.isSome_iff_exists.mp h
  rw [numbersEq, hp]
  exact decide_eq_true rfl

section Rebuilding

variable {mapped mapped' : MappingKind → MappingKind} {sequenced : SequenceKind}

theorem lookup_rebuildEntries {key : PyKey} : ∀ entries : List (PyKey × PyValue),
    (rebuildEntries mapped sequenced entries).lookup key =
      (entries.lookup key).map (rebuild mapped sequenced)
  | [] => rfl
  | (key', item) :: entries => by
      rw [rebuildEntries, List.lookup_cons, List.lookup_cons, lookup_rebuildEntries entries]
      cases key == key' <;> rfl

mutual

/-- Values that differ in the kinds of their mappings only are equal. -/
theorem pyEq_rebuild : ∀ {value}, Proper value → Clean value →
    pyEq (rebuild mapped sequenced value) (rebuild mapped' sequenced value) = true
  | .none, _, _ => rfl
  | .str text, _, _ => decide_eq_true rfl
  | .bool b, _, _ => numbersEq_self (v := .bool b) rfl
  | .int n, _, _ => numbersEq_self (v := .int n) rfl
  | .float bits, _, h => by
      rw [Clean, isFinite] at h
      obtain ⟨q, hq⟩ := Option.isSome_iff_exists.mp h
      refine numbersEq_self (v := .float bits) ?_
      rw [PyValue.number?, floatNumber, hq]
      rfl
  | .sequence _ items, hproper, hclean => by
      rw [Proper] at hproper
      rw [Clean] at hclean
      rw [rebuild, rebuild, pyEq, pyEqItems_rebuild hproper hclean, Bool.and_true]
      exact decide_eq_true rfl
  | .mapping _ entries, hproper, hclean => by
      rw [Proper] at hproper
      rw [Clean] at hclean
      have hlength : (rebuildEntries mapped sequenced entries).length =
          (rebuildEntries mapped' sequenced entries).length := by
        rw [← List.length_map (f := Prod.fst), rebuildEntries_keys, ← rebuildEntries_keys,
          List.length_map]
      rw [rebuild, rebuild, pyEq, decide_eq_true hlength, Bool.true_and]
      refine pyEqEntries_rebuild hproper.2 hclean fun key item hmem => ?_
      exact Association.lookup_of_mem hproper.1 hmem

/-- Each entry is found where the mapping has it. -/
theorem pyEqEntries_rebuild {all : List (PyKey × PyValue)} : ∀ {entries},
    ProperEntries entries → CleanEntries entries →
      (∀ key item, (key, item) ∈ entries → all.lookup key = some item) →
        pyEqEntries (rebuildEntries mapped sequenced entries)
          (rebuildEntries mapped' sequenced all) = true
  | [], _, _, _ => rfl
  | (key, item) :: entries, ⟨hitem, hentries⟩, ⟨_, hclean, hcleans⟩, hlookup => by
      have hrest : pyEqEntries (rebuildEntries mapped sequenced entries)
          (rebuildEntries mapped' sequenced all) = true :=
        pyEqEntries_rebuild hentries hcleans fun key' item' hmem =>
          hlookup key' item' (List.mem_cons_of_mem _ hmem)
      rw [rebuildEntries, pyEqEntries, lookup_rebuildEntries,
        hlookup key item List.mem_cons_self, hrest, Bool.and_true]
      exact pyEq_rebuild hitem hclean

theorem pyEqItems_rebuild : ∀ {items}, ProperItems items → CleanItems items →
    pyEqItems (rebuildItems mapped sequenced items) (rebuildItems mapped' sequenced items) = true
  | [], _, _ => rfl
  | _ :: _, ⟨hitem, hitems⟩, ⟨hclean, hcleans⟩ => by
      rw [rebuildItems, rebuildItems, pyEqItems, pyEq_rebuild hitem hclean,
        pyEqItems_rebuild hitems hcleans]
      rfl

end

end Rebuilding

end Kdive.RoutingData

import Kdive.Lib.Association

/-!
# Dictionaries

A dictionary is a list of entries with distinct keys, in insertion order.  Setting a
key that is there keeps its place.
-/

namespace Dictionary

/-- A dictionary in insertion order. -/
structure Dict (α β : Type) where
  entries : List (α × β)
  /-- A key has one entry. -/
  nodup : (entries.map Prod.fst).Nodup
deriving DecidableEq

namespace Dict

variable {α β : Type}

/-- `{}` -/
def empty : Dict α β := ⟨[], List.nodup_nil⟩

instance : Inhabited (Dict α β) := ⟨empty⟩

/-- The keys, in insertion order. -/
def keys (d : Dict α β) : List α := d.entries.map Prod.fst

/-- `{k: v for k, v in d.items() if keep(k, v)}` -/
def filter (d : Dict α β) (keep : α × β → Bool) : Dict α β :=
  ⟨d.entries.filter keep, d.nodup.sublist (List.filter_sublist.map _)⟩

variable [DecidableEq α]

/-- `d.get(k)` -/
def get? (d : Dict α β) (k : α) : Option β := d.entries.lookup k

/-- `d.pop(k, None)` -/
def erase (d : Dict α β) (k : α) : Dict α β := d.filter fun e => e.1 ≠ k

/-- The entry at `k` replaced, if it is there. -/
def replaceEntry (k : α) (v : β) (e : α × β) : α × β := if e.1 = k then (k, v) else e

theorem replaceEntry_fst (k : α) (v : β) (e : α × β) : (replaceEntry k v e).1 = e.1 := by
  rw [replaceEntry]
  split
  · exact Eq.symm ‹_›
  · rfl

/-- `d[k] = v` -/
def set (d : Dict α β) (k : α) (v : β) : Dict α β :=
  if hk : k ∈ d.entries.map Prod.fst then
    ⟨d.entries.map (replaceEntry k v), by
      have hkeys : (d.entries.map (replaceEntry k v)).map Prod.fst = d.entries.map Prod.fst := by
        rw [List.map_map]
        exact List.map_congr_left fun e _ => replaceEntry_fst k v e
      rw [hkeys]
      exact d.nodup⟩
  else
    ⟨d.entries ++ [(k, v)], by
      rw [List.map_append]
      refine List.nodup_append.mpr ⟨d.nodup, List.nodup_singleton k, fun a ha b hb heq => hk ?_⟩
      rwa [heq, List.mem_singleton.mp hb] at ha⟩

/-- `d.update(entries)` -/
def setAll (d : Dict α β) (entries : List (α × β)) : Dict α β :=
  entries.foldl (fun d e => d.set e.1 e.2) d

variable {d : Dict α β} {k : α} {v : β}

/-- A key has the value of its entry. -/
theorem get?_eq_some : d.get? k = some v ↔ (k, v) ∈ d.entries :=
  ⟨Association.mem_of_lookup, Association.lookup_of_mem d.nodup⟩

theorem get?_eq_none : d.get? k = none ↔ k ∉ d.keys := by
  constructor
  · intro h hk
    obtain ⟨v, hv⟩ := Association.mem_keys.mp hk
    rw [get?, hv] at h
    cases h
  · intro hk
    cases h : d.get? k with
    | none => rfl
    | some v => exact absurd (Association.mem_keys.mpr ⟨v, h⟩) hk

@[simp] theorem get?_empty : (empty : Dict α β).get? k = none := rfl

/-- Any lookup of the entries finds what the dictionary does. -/
theorem lookup_entries [BEq α] [LawfulBEq α] : d.entries.lookup k = d.get? k :=
  Option.ext fun _ =>
    ⟨fun h => get?_eq_some.mpr (Association.mem_of_lookup h),
      fun h => Association.lookup_of_mem d.nodup (get?_eq_some.mp h)⟩

theorem get?_filter {keep : α × β → Bool} :
    (d.filter keep).get? k = some v ↔ d.get? k = some v ∧ keep (k, v) = true := by
  rw [get?_eq_some, get?_eq_some, filter, List.mem_filter]

theorem get?_erase (k' : α) : (d.erase k).get? k' = if k' = k then none else d.get? k' := by
  refine Option.ext fun w => ?_
  rw [erase, get?_filter]
  split
  · simp [‹k' = k›]
  · simp [‹k' ≠ k›]

@[simp] theorem get?_set_self : (d.set k v).get? k = some v := by
  rw [get?_eq_some, set]
  split
  · next hk =>
      obtain ⟨e, he, rfl⟩ := List.mem_map.mp hk
      exact List.mem_map.mpr ⟨e, he, by simp [replaceEntry]⟩
  · simp

theorem get?_set_of_ne {k' : α} (hne : k' ≠ k) : (d.set k v).get? k' = d.get? k' := by
  refine Option.ext fun w => ?_
  rw [get?_eq_some, get?_eq_some, set]
  split
  · rw [List.mem_map]
    constructor
    · rintro ⟨e, he, heq⟩
      by_cases hk : e.1 = k
      · rw [replaceEntry, if_pos hk, Prod.mk.injEq] at heq
        exact absurd heq.1.symm hne
      · rw [replaceEntry, if_neg hk] at heq
        exact heq ▸ he
    · intro hw
      exact ⟨(k', w), hw, if_neg hne⟩
  · simp [hne]

/-- The keys after an update are a matter of the keys before. -/
theorem keys_set : (d.set k v).keys = if k ∈ d.keys then d.keys else d.keys ++ [k] := by
  unfold keys set
  split
  · show (d.entries.map (replaceEntry k v)).map Prod.fst = _
    rw [List.map_map]
    exact List.map_congr_left fun e _ => replaceEntry_fst k v e
  · exact List.map_append

/-- A key that is not updated keeps its value. -/
theorem get?_setAll_of_notMem {entries : List (α × β)} (hk : k ∉ entries.map Prod.fst) :
    (d.setAll entries).get? k = d.get? k := by
  induction entries generalizing d with
  | nil => rfl
  | cons e entries ih =>
      rw [List.map_cons, List.mem_cons, not_or] at hk
      rw [setAll, List.foldl_cons]
      exact (ih hk.2).trans (get?_set_of_ne hk.1)

/-- An updated key has its new value. -/
theorem get?_setAll_of_mem {entries : List (α × β)} (hnodup : (entries.map Prod.fst).Nodup)
    (hmem : (k, v) ∈ entries) : (d.setAll entries).get? k = some v := by
  induction entries generalizing d with
  | nil => cases hmem
  | cons e entries ih =>
      rw [List.map_cons, List.nodup_cons] at hnodup
      rw [setAll, List.foldl_cons]
      cases hmem with
      | head => exact (get?_setAll_of_notMem hnodup.1).trans get?_set_self
      | tail _ hmem => exact ih hnodup.2 hmem

/-- New keys are put behind the others. -/
theorem entries_setAll {entries : List (α × β)} (hnodup : (entries.map Prod.fst).Nodup)
    (hnew : ∀ k ∈ entries.map Prod.fst, k ∉ d.keys) :
    (d.setAll entries).entries = d.entries ++ entries := by
  induction entries generalizing d with
  | nil => exact (List.append_nil _).symm
  | cons e entries ih =>
      rw [List.map_cons, List.nodup_cons] at hnodup
      have hset : (d.set e.1 e.2).entries = d.entries ++ [e] := by
        have hne : e.1 ∉ d.entries.map Prod.fst := hnew e.1 List.mem_cons_self
        rw [set, dif_neg hne]
      rw [setAll, List.foldl_cons]
      refine (ih hnodup.2 fun k hk hmem => ?_).trans (by rw [hset, List.append_assoc]; rfl)
      rw [keys, hset, List.map_append] at hmem
      rcases List.mem_append.mp hmem with hmem | hmem
      · exact hnew k (List.mem_cons_of_mem _ hk) hmem
      · exact hnodup.1 (List.mem_singleton.mp hmem ▸ hk)

/-- A key was there, or it was updated. -/
theorem mem_keys_setAll {entries : List (α × β)} (h : k ∈ (d.setAll entries).keys) :
    k ∈ d.keys ∨ k ∈ entries.map Prod.fst := by
  by_contra hnot
  rw [not_or] at hnot
  have hnone := (get?_setAll_of_notMem (d := d) hnot.2).trans (get?_eq_none.mpr hnot.1)
  exact get?_eq_none.mp hnone h

end Dict

end Dictionary

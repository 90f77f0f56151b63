import Mathlib.Algebra.GroupWithZero.Nat
import Mathlib.Data.List.Nodup
import Mathlib.Data.List.Perm.Basic

/-!
# Association lists

`List.lookup` finds the first entry of a key.  When no two entries share a key,
an entry is found exactly when it is in the list.
-/

namespace Association

/-- The keys are often texts: they are looked up by one instance everywhere. -/
instance lawfulBEqText : LawfulBEq (List Char) := inferInstance

/-- What holds of the characters of a text is decided one by one everywhere. -/
instance decidableForallText (p : Char → Prop) [DecidablePred p] (text : List Char) :
    Decidable (∀ c ∈ text, p c) := List.decidableBAll p text

variable {α β : Type*} {entries : List (α × β)} {k : α} {v w : β}

/-- Two entries of one key are one entry. -/
theorem eq_of_mem (hnodup : (entries.map Prod.fst).Nodup) (hv : (k, v) ∈ entries)
    (hw : (k, w) ∈ entries) : v = w :=
  congrArg Prod.snd (List.inj_on_of_nodup_map hnodup hv hw rfl)

/-- Filtering by a key that the items do not share leaves one. -/
theorem filter_eq_singleton {ι κ : Type*} [DecidableEq κ] {key : ι → κ} {items : List ι} {i : ι}
    (hnodup : (items.map key).Nodup) (hi : i ∈ items) :
    items.filter (fun j => key j = key i) = [i] := by
  induction items with
  | nil => cases hi
  | cons j items ih =>
      rw [List.map_cons, List.nodup_cons] at hnodup
      cases hi with
      | head =>
          rw [List.filter_cons_of_pos (by simp), List.filter_eq_nil_iff.mpr]
          intro l hl hkey
          exact hnodup.1 (List.mem_map.mpr ⟨l, hl, of_decide_eq_true hkey⟩)
      | tail _ hi =>
          have hne : key j ≠ key i := fun heq => hnodup.1 (List.mem_map.mpr ⟨i, hi, heq.symm⟩)
          rw [List.filter_cons_of_neg (by simpa using hne)]
          exact ih hnodup.2 hi

variable [BEq α] [LawfulBEq α]

theorem mem_of_lookup (h : entries.lookup k = some v) : (k, v) ∈ entries := by
  obtain ⟨before, since, rfl, _⟩ := List.lookup_eq_some_iff.mp h
  exact List.mem_append_right _ List.mem_cons_self

/-- A key has a value exactly when it is one of the keys. -/
theorem mem_keys : k ∈ entries.map Prod.fst ↔ ∃ v, entries.lookup k = some v := by
  constructor
  · intro hk
    obtain ⟨e, he, rfl⟩ := List.mem_map.mp hk
    exact Option.isSome_iff_exists.mp (List.lookup_isSome_iff.mpr ⟨e, he, by simp⟩)
  · rintro ⟨v, hv⟩
    exact List.mem_map_of_mem (mem_of_lookup hv)

theorem lookup_of_mem (hnodup : (entries.map Prod.fst).Nodup) (hv : (k, v) ∈ entries) :
    entries.lookup k = some v := by
  obtain ⟨w, hw⟩ := mem_keys.mp (List.mem_map_of_mem hv)
  rw [hw, eq_of_mem hnodup (mem_of_lookup hw) hv]

/-- Removing a key leaves the lookups of the others. -/
theorem lookup_filter [DecidableEq α] (entries : List (α × β)) (k k' : α) :
    (entries.filter fun e => e.1 ≠ k).lookup k' = if k' = k then none else entries.lookup k' := by
  induction entries with
  | nil => simp
  | cons e entries ih =>
      by_cases he : e.1 = k
      · rw [List.filter_cons_of_neg (by simpa using he), ih, List.lookup_cons]
        split
        · rfl
        · rw [beq_false_of_ne (he ▸ ‹k' ≠ k›)]
      · rw [List.filter_cons_of_pos (by simpa using he), List.lookup_cons, List.lookup_cons, ih]
        by_cases hself : k' = e.1
        · have hne : k' ≠ k := hself ▸ he
          rw [beq_iff_eq.mpr hself]
          exact (if_neg hne).symm
        · rw [beq_false_of_ne hself]

/-- Removing a key takes away the entry that a lookup finds. -/
theorem perm_filter [DecidableEq α] (hnodup : (entries.map Prod.fst).Nodup)
    (h : entries.lookup k = some v) :
    entries.Perm ((k, v) :: entries.filter fun e => e.1 ≠ k) := by
  induction entries with
  | nil => cases h
  | cons e rest ih =>
      obtain ⟨k', w⟩ := e
      rw [List.map_cons, List.nodup_cons] at hnodup
      by_cases hk : k = k'
      · subst hk
        have hv : w = v := by simpa [List.lookup_cons] using h
        have hrest : rest.filter (fun e => e.1 ≠ k) = rest :=
          List.filter_eq_self.mpr fun e he => decide_eq_true fun heq =>
            hnodup.1 (List.mem_map.mpr ⟨e, he, heq⟩)
        rw [List.filter_cons_of_neg (by simp), hrest, hv]
      · have hfound : rest.lookup k = some v := by
          simpa [List.lookup_cons, beq_false_of_ne hk] using h
        rw [List.filter_cons_of_pos (by simpa using Ne.symm hk)]
        exact ((ih hnodup.2 hfound).cons _).trans (.swap ..)

/-- Distinct keys look up no more than there is. -/
theorem sum_lookup_le {α : Type} [DecidableEq α] {keys : List α} (entries : List (α × Nat))
    (hkeys : keys.Nodup) :
    (keys.map fun k => (entries.lookup k).getD 0).sum ≤ (entries.map Prod.snd).sum := by
  induction entries generalizing keys with
  | nil => simp
  | cons entry entries ih =>
      -- the keys that are not the one of the entry are looked up behind it
      have hrest : ∀ {others : List α}, entry.1 ∉ others →
          (others.map fun k => ((entry :: entries).lookup k).getD 0) =
            others.map fun k => (entries.lookup k).getD 0 := by
        intro others hothers
        refine List.map_congr_left fun k hk => ?_
        have hne : k ≠ entry.1 := fun heq => hothers (heq ▸ hk)
        rw [List.lookup_cons, beq_false_of_ne hne]
      rw [List.map_cons, List.sum_cons]
      by_cases hmem : entry.1 ∈ keys
      · have hself : ((entry :: entries).lookup entry.1).getD 0 = entry.2 := by
          rw [List.lookup_cons, beq_self_eq_true]
          rfl
        have hothers : entry.1 ∉ keys.erase entry.1 := fun h => hkeys.not_mem_erase h
        rw [((List.perm_cons_erase hmem).map _).sum_nat, List.map_cons, List.sum_cons, hself,
          hrest hothers]
        exact Nat.add_le_add_left (ih (hkeys.erase _)) _
      · rw [hrest hmem]
        exact Nat.le_trans (ih hkeys) (Nat.le_add_left _ _)

end Association

import Mathlib.Data.List.Nodup
import Mathlib.Data.List.Perm.Basic

/-!
# Lists merged by key

`merge` lays an override over a list: an item stays unless the override has one of
its key, and the items of the override follow.

`Merges` is what such an operation keeps, for the lists that are accepted.
`merges_merge` says that `merge` keeps it, if a list is accepted when its items are
and no two of them share a key.
-/

namespace KeyedMerge

variable {α κ : Type*} [DecidableEq κ] (key : α → κ)

/-- The items whose key the override does not set, and then the override. -/
def merge (base override : List α) : List α :=
  base.filter (fun a => key a ∉ override.map key) ++ override

/-- What merging keeps. -/
structure Merges (accepts : List α → Prop) (merge : List α → List α → List α) : Prop where
  /-- A merged list is accepted. -/
  accepted : ∀ {base override}, accepts base → accepts override → accepts (merge base override)
  /-- It has the items of the base whose key is not set, in their order, and behind
  them the override. -/
  content : ∀ {base override}, accepts base → accepts override → ∃ kept : List α,
    merge base override = kept ++ override ∧ kept.Sublist base ∧
      ∀ a ∈ base, a ∈ kept ↔ key a ∉ override.map key
  /-- The same override again changes nothing. -/
  again : ∀ {base override}, accepts base → accepts override →
    merge (merge base override) override = merge base override
  /-- Overrides of different keys can change places. -/
  commute : ∀ {base first second}, accepts base → accepts first → accepts second →
    (∀ k ∈ first.map key, k ∉ second.map key) →
      (merge (merge base first) second).Perm (merge (merge base second) first)

variable {key} {base override first second : List α}

theorem mem_merge {a : α} :
    a ∈ merge key base override ↔ (a ∈ base ∧ key a ∉ override.map key) ∨ a ∈ override := by
  rw [merge, List.mem_append, List.mem_filter, decide_eq_true_iff]

theorem nodup_merge (hbase : (base.map key).Nodup) (hoverride : (override.map key).Nodup) :
    ((merge key base override).map key).Nodup := by
  rw [merge, List.map_append, List.nodup_append']
  refine ⟨hbase.sublist (List.filter_sublist.map key), hoverride, ?_⟩
  rintro k hk
  obtain ⟨a, ha, rfl⟩ := List.mem_map.mp hk
  simpa using (List.mem_filter.mp ha).2

/-- Items of other keys all stay. -/
theorem filter_eq_self_of_disjoint (h : ∀ k ∈ first.map key, k ∉ second.map key) :
    first.filter (fun a => key a ∉ second.map key) = first :=
  List.filter_eq_self.mpr fun _ ha => decide_eq_true (h _ (List.mem_map_of_mem ha))

theorem merge_merge_self : merge key (merge key base override) override = merge key base override := by
  have hgone : override.filter (fun a => key a ∉ override.map key) = [] :=
    List.filter_eq_nil_iff.mpr fun a ha hkey => of_decide_eq_true hkey (List.mem_map_of_mem ha)
  rw [merge, merge, List.filter_append, List.filter_filter, hgone, List.append_nil]
  simp only [Bool.and_self]

theorem merge_merge_perm (h : ∀ k ∈ first.map key, k ∉ second.map key) :
    (merge key (merge key base first) second).Perm (merge key (merge key base second) first) := by
  have h' : ∀ k ∈ second.map key, k ∉ first.map key := fun k hk hk' => h k hk' hk
  have hbase : (base.filter fun a => key a ∉ first.map key).filter (fun a => key a ∉ second.map key) =
      (base.filter fun a => key a ∉ second.map key).filter (fun a => key a ∉ first.map key) := by
    rw [List.filter_filter, List.filter_filter]
    simp only [Bool.and_comm]
  rw [merge, merge, merge, merge, List.filter_append, List.filter_append,
    filter_eq_self_of_disjoint h, filter_eq_self_of_disjoint h', hbase, List.append_assoc,
    List.append_assoc]
  exact List.Perm.append_left _ List.perm_append_comm

/-- Merging by key keeps what is expected, if the keys of an accepted list differ. -/
theorem merges_merge {accepts : List α → Prop} {ok : α → Prop}
    (haccepts : ∀ items, accepts items ↔ (∀ a ∈ items, ok a) ∧ (items.map key).Nodup) :
    Merges key accepts (merge key) where
  accepted hbase hoverride := by
    rw [haccepts] at hbase hoverride ⊢
    refine ⟨fun a ha => ?_, nodup_merge hbase.2 hoverride.2⟩
    rcases mem_merge.mp ha with h | h
    · exact hbase.1 a h.1
    · exact hoverride.1 a h
  content _ _ := by
    refine ⟨_, rfl, List.filter_sublist, fun a ha => ?_⟩
    rw [List.mem_filter, and_iff_right ha, decide_eq_true_iff]
  again _ _ := merge_merge_self
  commute _ _ _ h := merge_merge_perm h

end KeyedMerge

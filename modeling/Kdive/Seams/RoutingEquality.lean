import Mathlib.Data.List.Perm.Subperm
import Kdive.Lib.Association
import Kdive.Seams.TransportState

/-!
# Equal routing data

Two JSON objects that compare equal have the same keys, and equal values under
each of them.  Equal values need not be the same: numbers compare by value
across their types.  Texts do.
-/

namespace Kdive

open Association

/-- The keys of a JSON object are distinct. -/
def KeysDistinct (entries : List (String × Routing)) : Prop :=
  (entries.map Prod.fst).Nodup

instance (entries : List (String × Routing)) : Decidable (KeysDistinct entries) :=
  inferInstanceAs (Decidable (List.Nodup _))

theorem Routing.eqMap_mem : ∀ {kvs kws : List (String × Routing)},
    Routing.eqMap kvs kws = true →
      ∀ e ∈ kvs, ∃ w, kws.lookup e.1 = some w ∧ Routing.eq e.2 w = true
  | [], _, _ => by simp
  | (k, v) :: rest, kws, h => by
      simp only [Routing.eqMap, Bool.and_eq_true] at h
      obtain ⟨hhead, hrest⟩ := h
      intro e he
      rcases List.mem_cons.mp he with rfl | hm
      · cases hlookup : kws.lookup k with
        | none => simp [hlookup] at hhead
        | some w => exact ⟨w, rfl, by simpa [hlookup] using hhead⟩
      · exact Routing.eqMap_mem hrest e hm

theorem Routing.eq_map {kvs kws : List (String × Routing)} :
    Routing.eq (.map kvs) (.map kws) = true ↔
      kvs.length = kws.length ∧ Routing.eqMap kvs kws = true := by
  simp [Routing.eq]

/-- Equal objects have the same keys. -/
theorem mem_keys_of_eq {kvs kws : List (String × Routing)}
    (heq : Routing.eq (.map kvs) (.map kws) = true) (hdistinct : KeysDistinct kvs) {k : String} :
    k ∈ kvs.map Prod.fst ↔ k ∈ kws.map Prod.fst := by
  obtain ⟨hlength, hentries⟩ := Routing.eq_map.mp heq
  have hsubset : kvs.map Prod.fst ⊆ kws.map Prod.fst := by
    intro key hkey
    obtain ⟨e, he, rfl⟩ := List.mem_map.mp hkey
    obtain ⟨w, hw, _⟩ := Routing.eqMap_mem hentries e he
    exact mem_keys.mpr ⟨w, hw⟩
  have hperm : (kvs.map Prod.fst).Perm (kws.map Prod.fst) :=
    (List.subperm_of_subset hdistinct hsubset).perm_of_length_le (by simp [hlength])
  exact hperm.mem_iff

/-- Equal objects agree under every key. -/
theorem lookup_of_eq {kvs kws : List (String × Routing)}
    (heq : Routing.eq (.map kvs) (.map kws) = true) (hdistinct : KeysDistinct kvs) (k : String) :
    (kvs.lookup k = none ∧ kws.lookup k = none) ∨
      ∃ v w, kvs.lookup k = some v ∧ kws.lookup k = some w ∧ Routing.eq v w = true := by
  have hkeys := mem_keys_of_eq heq hdistinct (k := k)
  rw [mem_keys, mem_keys] at hkeys
  cases hv : kvs.lookup k with
  | none =>
      refine .inl ⟨rfl, ?_⟩
      cases hw : kws.lookup k with
      | none => rfl
      | some w => exact absurd (hkeys.mpr ⟨w, hw⟩) (by simp [hv])
  | some v =>
      obtain ⟨w, hw, hvw⟩ := Routing.eqMap_mem (Routing.eq_map.mp heq).2 _ (mem_of_lookup hv)
      exact .inr ⟨v, w, rfl, hw, hvw⟩

/-! ## What equal values share -/

/-- A text equals itself only. -/
theorem Routing.eq_str {v w : Routing} (h : Routing.eq v w = true) (s : String) :
    v = .str s ↔ w = .str s := by
  cases v <;> cases w <;> simp_all [Routing.eq, Routing.number?]

/-- The null value equals itself only. -/
theorem Routing.eq_null {v w : Routing} (h : Routing.eq v w = true) : v = .null ↔ w = .null := by
  cases v <;> cases w <;> simp_all [Routing.eq, Routing.number?]

/-- Equal values are the same number, or none is a number. -/
theorem Routing.eq_number {v w : Routing} (h : Routing.eq v w = true) : v.number? = w.number? := by
  cases v <;> cases w <;> simp_all [Routing.eq, Routing.number?]

end Kdive

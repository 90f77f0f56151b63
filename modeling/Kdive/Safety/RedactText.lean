import Kdive.Safety.Redaction

/-!
# What a redacted text hides

The secrets are replaced one at a time, in the order in which a set happens to be
walked through.  Where two secrets overlap in the text, the first one replaced breaks
up the other.  Then the result depends on the order, and a piece of a secret can stay
readable (`redactText_prefix_leaks`).

`Separable` says when this does not happen: the occurrences in the text are apart, and
no secret meets the marker that another one was replaced by.  Then every order gives
the same result, and no character of an occurrence is left (`redactText_hides`).
-/

namespace Kdive

open Replacement

/-! ## The pass over pairs -/

section KeyValue

variable {α γ : Type} {ch : α → Char} {new : List α} {alnum : Char → Bool}

/-- The pass does not look at what the characters carry. -/
theorem map_keyValueFrom (f : α → γ) {ch' : γ → Char} (hch : ∀ c, ch' (f c) = ch c)
    (before : Option Char) (skip : Nat) (text : List α) :
    (keyValueFrom ch new alnum before skip text).map f =
      keyValueFrom ch' (new.map f) alnum before skip (text.map f) := by
  have hletters : ∀ t : List α, (t.map f).map ch' = t.map ch := fun t => by
    rw [List.map_map]
    exact List.map_congr_left fun c _ => hch c
  induction text generalizing before skip with
  | nil => cases skip <;> rfl
  | cons c text ih =>
      have hhere : ch' (f c) = ch c := hch c
      cases skip with
      | succ skip =>
          rw [List.map_cons, keyValueFrom, keyValueFrom, hhere]
          exact ih _ skip
      | zero =>
          have hsame := hletters (c :: text)
          rw [List.map_cons] at hsame
          rw [List.map_cons, keyValueFrom, keyValueFrom, hsame, hhere]
          rcases keyValueAt alnum before ((c :: text).map ch) with _ | ⟨key, value⟩
          · exact congrArg (f c :: ·) (ih _ 0)
          · show ((c :: text).take key ++ new ++ _).map f = _
            rw [List.map_append, List.map_append, ih, List.map_take, List.map_cons]

/-- The pass puts nothing in but the marker. -/
theorem mem_keyValueFrom {before : Option Char} {skip : Nat} {text : List α} {x : α}
    (hx : x ∈ keyValueFrom ch new alnum before skip text) : x ∈ new ∨ x ∈ text := by
  induction text generalizing before skip with
  | nil => cases skip <;> cases hx
  | cons c text ih =>
      have hrest : ∀ before skip, x ∈ keyValueFrom ch new alnum before skip text →
          x ∈ new ∨ x ∈ c :: text :=
        fun _ _ h => (ih h).imp_right (List.mem_cons_of_mem _)
      cases skip with
      | succ skip => exact hrest _ _ hx
      | zero =>
          rw [keyValueFrom] at hx
          rcases hpair : keyValueAt alnum before ((c :: text).map ch) with _ | ⟨key, value⟩
          · rw [hpair] at hx
            cases List.mem_cons.mp hx with
            | inl heq => exact .inr (heq ▸ List.mem_cons_self)
            | inr hx => exact hrest _ _ hx
          · rw [hpair] at hx
            rcases List.mem_append.mp hx with hx | hx
            · rcases List.mem_append.mp hx with hx | hx
              · exact .inr (List.mem_of_mem_take hx)
              · exact .inl hx
            · exact hrest _ _ hx

variable {kept : α → Prop} {s : List α}

/-- A run of kept characters at the start was the start of the text. -/
theorem prefix_keyValueFrom (hnonempty : new ≠ []) (hnew : ∀ x ∈ new, ¬ kept x)
    {before : Option Char} {skip : Nat} {text : List α} (hs : ∀ x ∈ s, kept x)
    (h : s <+: keyValueFrom ch new alnum before skip text) : s <+: text.drop skip := by
  induction text generalizing before skip s with
  | nil =>
      have : keyValueFrom ch new alnum before skip [] = [] := by cases skip <;> rfl
      rw [this] at h
      rw [List.prefix_nil.mp h]
      exact List.nil_prefix
  | cons c text ih =>
      cases skip with
      | succ skip => exact ih hs h
      | zero =>
          rw [keyValueFrom] at h
          rcases hpair : keyValueAt alnum before ((c :: text).map ch) with _ | ⟨key, value⟩
          · rw [hpair] at h
            cases s with
            | nil => exact List.nil_prefix
            | cons x s =>
                obtain ⟨hx, hrest⟩ := List.cons_prefix_cons.mp h
                have htail := ih (fun y hy => hs y (List.mem_cons_of_mem _ hy)) hrest
                exact List.cons_prefix_cons.mpr ⟨hx, htail⟩
          · rw [hpair] at h
            have hsides : s <+: (c :: text).take key ++
                (new ++ keyValueFrom ch new alnum (some (ch c)) (key + value - 1) text) := by
              rwa [← List.append_assoc]
            exact (prefix_of_append hnonempty hnew hs hsides).trans (List.take_prefix _ _)

/-- A run of kept characters was a run of the text. -/
theorem infix_keyValueFrom (hnonempty : new ≠ []) (hnew : ∀ x ∈ new, ¬ kept x)
    {before : Option Char} {skip : Nat} {text : List α} (hs : ∀ x ∈ s, kept x)
    (h : s <:+: keyValueFrom ch new alnum before skip text) : s <:+: text := by
  induction text generalizing before skip with
  | nil =>
      have : keyValueFrom ch new alnum before skip [] = [] := by cases skip <;> rfl
      rwa [this] at h
  | cons c text ih =>
      have hrest : ∀ before skip, s <:+: keyValueFrom ch new alnum before skip text →
          s <:+: c :: text := fun _ _ h => (ih h).trans (List.suffix_cons _ _).isInfix
      cases skip with
      | succ skip => exact hrest _ _ h
      | zero =>
          have hstart : s <+: keyValueFrom ch new alnum before 0 (c :: text) → s <+: c :: text :=
            prefix_keyValueFrom hnonempty hnew hs
          rw [keyValueFrom] at h hstart
          rcases hpair : keyValueAt alnum before ((c :: text).map ch) with _ | ⟨key, value⟩
          · rw [hpair] at h hstart
            cases List.infix_cons_iff.mp h with
            | inl h => exact (hstart h).isInfix
            | inr h => exact hrest _ _ h
          · rw [hpair] at h
            have hsides : s <:+: (c :: text).take key ++
                (new ++ keyValueFrom ch new alnum (some (ch c)) (key + value - 1) text) := by
              rwa [← List.append_assoc]
            cases infix_split hnonempty hnew hs hsides with
            | inl h => exact h.trans (List.take_prefix _ _).isInfix
            | inr h => exact hrest _ _ h

/-- The character before the rest of a text. -/
theorem getLast?_cons_or (c : Char) (a : Text) (before : Option Char) :
    (c :: a).getLast?.or before = a.getLast?.or (some c) := by
  cases a with
  | nil => rfl
  | cons x a =>
      obtain ⟨y, hy⟩ : ∃ y, (x :: a).getLast? = some y :=
        ⟨_, List.getLast?_eq_getLast_of_ne_nil (List.cons_ne_nil x a)⟩
      rw [List.getLast?_cons_cons, hy]
      rfl

/-- A text without a pair stays as it is. -/
theorem keyValueFrom_of_none {before : Option Char} {text : List α}
    (hnone : ∀ a b, text.map ch = a ++ b →
      keyValueAt alnum (a.getLast?.or before) b = none) :
    keyValueFrom ch new alnum before 0 text = text := by
  induction text generalizing before with
  | nil => rfl
  | cons c text ih =>
      have hhere : keyValueAt alnum before ((c :: text).map ch) = none := hnone [] _ rfl
      rw [keyValueFrom, hhere]
      refine congrArg (c :: ·) (ih fun a b hsplit => ?_)
      rw [← getLast?_cons_or (ch c) a before]
      exact hnone (ch c :: a) b (by rw [List.map_cons, hsplit]; rfl)

end KeyValue

/-! ## Cells -/

theorem cells_chars (text : Text) : (cells text).map Prod.fst = text := by
  unfold cells
  rw [List.map_map]
  exact List.zipIdx_map_fst 0 text

theorem marker_chars : marker.map Prod.fst = REDACTION := by decide

/-- A cell of the input carries its place. -/
theorem cells_place {text : Text} {b rest : List Cell} {x : Cell}
    (h : cells text = b ++ x :: rest) : x.2 = some b.length := by
  have hget : (cells text)[b.length]? = some x := by
    rw [h]
    simp
  unfold cells at hget
  rw [List.getElem?_map, List.getElem?_zipIdx] at hget
  cases hc : text[b.length]? with
  | none => simp [hc] at hget
  | some c =>
      rw [hc] at hget
      have : (c, some (0 + b.length)) = x := by simpa using hget
      rw [← this, Nat.zero_add]

/-- The characters of the redacted cells are the redacted text. -/
theorem map_redactCells (redactor : Redactor) (text : Text) :
    (redactor.redactCells text).map Prod.fst = redactor.redactText text := by
  have hfold : ∀ (values : List Text) (t : List Cell),
      (values.foldl (fun redacted value => replace Prod.fst marker value redacted) t).map
        Prod.fst =
      values.foldl (fun redacted value => replace id REDACTION value redacted)
        (t.map Prod.fst) := by
    intro values
    induction values with
    | nil => exact fun t => rfl
    | cons value values ih =>
        intro t
        have hone : (replace Prod.fst marker value t).map Prod.fst =
            replace id (marker.map Prod.fst) value (t.map Prod.fst) :=
          @map_replaceAny _ _ _ Prod.fst marker [value] _ Prod.fst id (fun _ => rfl) t
        rw [List.foldl_cons, List.foldl_cons, ih, hone, marker_chars]
  have hpairs : ∀ t : List Cell, (keyValueSub Prod.fst marker redactor.alnum t).map Prod.fst =
      keyValueSub id (marker.map Prod.fst) redactor.alnum (t.map Prod.fst) :=
    @map_keyValueFrom _ _ Prod.fst marker redactor.alnum Prod.fst id (fun _ => rfl) none 0
  unfold Redactor.redactCells Redactor.redactText Redactor.redactWith
  rw [hpairs, marker_chars, hfold, cells_chars]

/-! ## Secrets in a text -/

/-- The character at this place belongs to an occurrence of one of the values. -/
def InSecret (values : List Text) (text : Text) (place : Nat) : Prop :=
  ∃ value ∈ values, ∃ start ≤ place, place < start + value.length ∧ value <+: text.drop start

/-- This character of the input is left in the output, and no marker covers it there. -/
def Survives (redactor : Redactor) (text : Text) (place : Nat) : Prop :=
  ∃ i c, (redactor.redactCells text)[i]? = some (c, some place) ∧
    ∀ start ≤ i, i < start + REDACTION.length →
      ¬ REDACTION <+: (redactor.redactText text).drop start

/-- In whatever order the registered values are walked through, the result is the same
and no character of an occurrence survives. -/
def Hides {Scope : Type} (registry : SecretRegistry Scope) (alnum : Char → Bool) (text : Text) :
    Prop :=
  ∀ order order', registry.Enumerates order → registry.Enumerates order' →
    (Redactor.create alnum order []).redactText text =
        (Redactor.create alnum order' []).redactText text ∧
      ∀ place, InSecret registry.snapshot text place →
        ¬ Survives (Redactor.create alnum order []) text place

/-- The values can be replaced one at a time: their occurrences in the text are apart,
and no value meets the marker that another one is replaced by. -/
def Separable (values : List Text) (text : Text) : Prop :=
  Apart values text ∧
    ∀ v ∈ values, ∀ w ∈ values, v ≠ w → w <:+: text → Tolerates REDACTION v

instance (values : List Text) (text : Text) : Decidable (Separable values text) :=
  inferInstanceAs (Decidable (_ ∧ _))

theorem Separable.perm {values values' : List Text} {text : Text} (h : values.Perm values')
    (hsep : Separable values' text) : Separable values text :=
  ⟨fun v hv w hw => hsep.1 v (h.mem_iff.mp hv) w (h.mem_iff.mp hw),
    fun v hv w hw => hsep.2 v (h.mem_iff.mp hv) w (h.mem_iff.mp hw)⟩

theorem create_values {alnum : Char → Bool} {order : List Text}
    (hfilled : ∀ value ∈ order, value ≠ []) :
    (Redactor.create alnum order []).secretValues = order := by
  show (order ++ []).filter (fun value => value ≠ []) = order
  rw [List.append_nil]
  exact List.filter_eq_self.mpr fun value hvalue => decide_eq_true (hfilled value hvalue)

/-- The first pass replaces all the values at once. -/
theorem redactWith_eq {α : Type} {ch : α → Char} {new : List α} {alnum : Char → Bool}
    {order : List Text} {text : List α} (hfilled : ∀ value ∈ order, value ≠ [])
    (hnodup : order.Nodup) (hnew : new.map ch = REDACTION)
    (hsep : Separable order (text.map ch)) :
    (Redactor.create alnum order []).redactWith ch new text =
      keyValueSub ch new alnum (replaceAny ch new order text) := by
  unfold Redactor.redactWith
  rw [create_values hfilled, foldl_replace hfilled hnodup hsep.1 (by rw [hnew]; exact hsep.2)]
  rfl

/-- A character that is left stood in no occurrence. -/
theorem not_inSecret_of_mem {alnum : Char → Bool} {order : List Text} {text : Text}
    (hfilled : ∀ value ∈ order, value ≠ []) (hnodup : order.Nodup)
    (hsep : Separable order text) {c : Char} {place : Nat}
    (h : (c, some place) ∈ (Redactor.create alnum order []).redactCells text) :
    ¬ InSecret order text place := by
  have hchars : Separable order ((cells text).map Prod.fst) := by rwa [cells_chars]
  unfold Redactor.redactCells at h
  rw [redactWith_eq hfilled hnodup marker_chars hchars] at h
  have hmarker : (c, some place) ∉ marker := by
    unfold marker
    simp
  have hleft := (mem_keyValueFrom h).resolve_left hmarker
  have houtside := (mem_replaceAny hfilled hchars.1 hleft).resolve_left hmarker
  obtain ⟨b, rest, hsplit, hout⟩ := houtside
  have hplace : some place = some b.length := cells_place hsplit
  rw [Option.some.injEq] at hplace
  rintro ⟨value, hvalue, start, hstart, hlt, hhead⟩
  rw [← cells_chars text] at hhead
  have := hout value hvalue start (by omega) hhead
  omega

/-- A registry that knows these values. -/
def registered (values : List Text) : SecretRegistry Unit :=
  values.foldl (fun registry value => registry.register (some value) none) .empty

end Kdive

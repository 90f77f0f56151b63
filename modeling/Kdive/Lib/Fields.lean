import Mathlib.Data.List.Infix
import Mathlib.Data.List.Basic
import Kdive.Lib.Lines

/-!
# Fields of a line

A line is cut into fields at its blanks.  `split` gives the fields of a line, however
many blanks stand between them.  `rpartition` cuts a text at the last place where a
separator stands.
-/

namespace Fields

variable {blank : Char → Bool}

/-! ## Fields between blanks -/

/-- The fields between the blanks of a text. -/
def split (blank : Char → Bool) (text : List Char) : List (List Char) :=
  (text.splitOnP blank).filter fun field => field ≠ []

/-- A field has characters, and none of them is blank. -/
structure Field (blank : Char → Bool) (field : List Char) : Prop where
  ne : field ≠ []
  solid : ∀ c ∈ field, blank c = false

@[simp] theorem split_nil : split blank [] = [] := by simp [split]

/-- The fields on the two sides of a blank. -/
theorem split_append_cons {c : Char} (hc : blank c = true) (left right : List Char) :
    split blank (left ++ c :: right) = split blank left ++ split blank right := by
  rw [split, List.splitOnP_append_cons _ _ hc, List.filter_append]
  rfl

/-- A field is its only field. -/
theorem Field.split {field : List Char} (h : Field blank field) :
    Fields.split blank field = [field] := by
  rw [Fields.split, List.splitOnP_eq_singleton h.solid]
  simp [h.ne]

/-- Blanks in front make no field. -/
theorem split_gap {gap : List Char} (hgap : ∀ c ∈ gap, blank c = true) (text : List Char) :
    split blank (gap ++ text) = split blank text := by
  induction gap with
  | nil => rfl
  | cons c gap ih =>
      have hc := split_append_cons (hgap c List.mem_cons_self) [] (gap ++ text)
      rw [List.nil_append, split_nil, List.nil_append] at hc
      rw [List.cons_append, hc]
      exact ih fun d hd => hgap d (List.mem_cons_of_mem _ hd)

/-- Blanks behind make no field. -/
theorem split_gap_behind {gap : List Char} (hgap : ∀ c ∈ gap, blank c = true) (text : List Char) :
    split blank (text ++ gap) = split blank text := by
  cases gap with
  | nil => rw [List.append_nil]
  | cons c gap =>
      have hrest := split_gap (fun d hd => hgap d (List.mem_cons_of_mem _ hd)) []
      rw [List.append_nil, split_nil] at hrest
      rw [split_append_cons (hgap c List.mem_cons_self), hrest, List.append_nil]

/-- Taking the blanks at the ends away changes no field. -/
theorem split_trim (text : List Char) : split blank (Lines.trim blank text) = split blank text := by
  have hhead : text.takeWhile blank ++ text.dropWhile blank = text :=
    List.takeWhile_append_dropWhile
  have htail : Lines.trim blank text ++ (text.dropWhile blank).rtakeWhile blank =
      text.dropWhile blank := List.rdropWhile_append_rtakeWhile
  rw [← split_gap_behind fun c hc => List.mem_rtakeWhile_imp hc, htail]
  conv_rhs => rw [← hhead]
  exact (split_gap (fun c hc => List.mem_takeWhile_imp hc) _).symm

/-- What stands in a field stands in the text, and it is not blank. -/
theorem of_mem_split {text field : List Char} (h : field ∈ split blank text) :
    Field blank field := by
  obtain ⟨hmem, hne⟩ := List.mem_filter.mp h
  exact ⟨of_decide_eq_true hne, Lines.not_of_mem_splitOnP hmem⟩

/-- A field, blanks, and the rest. -/
theorem Field.split_append {field gap : List Char} (h : Field blank field)
    (hgap : ∀ c ∈ gap, blank c = true) (hne : gap ≠ []) (rest : List Char) :
    Fields.split blank (field ++ (gap ++ rest)) = field :: Fields.split blank rest := by
  obtain ⟨c, gap, rfl⟩ := List.exists_cons_of_ne_nil hne
  rw [List.cons_append, split_append_cons (hgap c List.mem_cons_self), h.split,
    split_gap fun d hd => hgap d (List.mem_cons_of_mem _ hd)]
  rfl

/-- Fields with one blank between any two of them are read back. -/
theorem split_intercalate {fields : List (List Char)} (h : ∀ field ∈ fields, Field blank field)
    {c : Char} (hc : blank c = true) : split blank ([c].intercalate fields) = fields := by
  induction fields with
  | nil => rfl
  | cons field fields ih =>
      cases fields with
      | nil => simpa using (h field List.mem_cons_self).split
      | cons next fields =>
          rw [List.intercalate_cons_cons, List.append_assoc, List.singleton_append,
            split_append_cons hc, (h field List.mem_cons_self).split,
            ih fun f hf => h f (List.mem_cons_of_mem _ hf)]
          rfl

/-- What stands in fields with one blank between any two of them. -/
theorem mem_intercalate {c x : Char} {fields : List (List Char)}
    (h : x ∈ [c].intercalate fields) : x = c ∨ ∃ field ∈ fields, x ∈ field := by
  induction fields with
  | nil => cases h
  | cons field fields ih =>
      cases fields with
      | nil => exact .inr ⟨field, List.mem_cons_self, by simpa using h⟩
      | cons next fields =>
          rw [List.intercalate_cons_cons, List.append_assoc, List.singleton_append,
            List.mem_append, List.mem_cons] at h
          rcases h with hfield | rfl | hrest
          · exact .inr ⟨field, List.mem_cons_self, hfield⟩
          · exact .inl rfl
          · rcases ih hrest with rfl | ⟨found, hfound, hx⟩
            · exact .inl rfl
            · exact .inr ⟨found, List.mem_cons_of_mem _ hfound, hx⟩

/-! ## The last separator -/

/-- `text.rpartition(sep)`: what stands on the two sides of the last separator. -/
def rpartition (sep : List Char) : List Char → Option (List Char × List Char)
  | [] => if sep = [] then some ([], []) else none
  | c :: text =>
      match rpartition sep text with
      | some (before, after) => some (c :: before, after)
      | none => if sep <+: c :: text then some ([], (c :: text).drop sep.length) else none

/-- Nothing is cut where the separator does not stand. -/
theorem rpartition_eq_none {sep text : List Char} (h : ¬ sep <:+: text) :
    rpartition sep text = none := by
  induction text with
  | nil =>
      rw [rpartition, if_neg]
      rintro rfl
      exact h List.infix_rfl
  | cons c text ih =>
      have htail : ¬ sep <:+: text := fun hinfix => h (List.infix_cons hinfix)
      rw [rpartition, ih htail]
      exact if_neg fun hprefix => h hprefix.isInfix

/-- A text is cut at a separator behind which there is no other. -/
theorem rpartition_append {c : Char} {sep : List Char} {after : List Char}
    (h : ¬ (c :: sep) <:+: sep ++ after) (before : List Char) :
    rpartition (c :: sep) (before ++ (c :: sep) ++ after) = some (before, after) := by
  induction before with
  | nil =>
      rw [List.nil_append, List.cons_append, rpartition, rpartition_eq_none h]
      have hprefix : (c :: sep) <+: c :: (sep ++ after) := List.prefix_append (c :: sep) after
      simp only [if_pos hprefix]
      rw [← List.cons_append, List.drop_left]
  | cons d before ih =>
      rw [List.cons_append, List.cons_append, rpartition, ih]

end Fields

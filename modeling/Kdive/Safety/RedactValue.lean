import Kdive.Safety.RedactText

/-!
# Redacting structured values

`redactValue` walks a value of mappings, lists, tuples and scalars.  It redacts the
strings and masks what stands under a secret-named key, or under `path` in a mapping
that is marked sensitive.  The keys themselves are copied.

`Redacts` says what becomes of each place of the value, and `redactValue_redacts` that
it does become so for every value.  `Clean` says that no string of the result, keys
included, holds a registered secret outside the markers.  Strings never do
(`infix_redactCells`).  A key that holds a secret keeps it, so the result is clean
exactly when no key of the value that is kept does (`redactValue_clean_iff`).
-/

namespace Kdive

open Replacement

/-! ## Strings -/

/-- Some pair `key=value` with a secret-sounding key stands in the text. -/
def HoldsPair (alnum : Char → Bool) (text : Text) : Prop :=
  ∃ before after, text = before ++ after ∧ ∃ name space sep space' value rest,
    Matches alnum before.getLast? after name space sep space' value rest

/-- There is nothing to redact in the text. -/
def Redactor.Plain (redactor : Redactor) (text : Text) : Prop :=
  (∀ value ∈ redactor.secretValues, ¬ value <:+: text) ∧ ¬ HoldsPair redactor.alnum text

/-- A text in which none of the values occurs goes through the first pass as it is. -/
theorem foldl_of_none {values : List Text} {text : Text}
    (hnone : ∀ value ∈ values, ¬ value <:+: text) :
    values.foldl (fun redacted value => replace id REDACTION value redacted) text = text := by
  induction values with
  | nil => rfl
  | cons value values ih =>
      have hone : replace id REDACTION value text = text := by
        refine replaceAny_of_misses fun w hw => ?_
        rw [List.mem_singleton.mp hw, List.map_id]
        exact hnone value List.mem_cons_self
      rw [List.foldl_cons, hone]
      exact ih fun w hw => hnone w (List.mem_cons_of_mem _ hw)

/-- A text without a secret and without a pair is returned as it is. -/
theorem redactText_of_plain {redactor : Redactor} {text : Text} (h : redactor.Plain text) :
    redactor.redactText text = text := by
  unfold Redactor.redactText Redactor.redactWith keyValueSub
  rw [foldl_of_none h.1]
  refine keyValueFrom_of_none fun before after hsplit => ?_
  rw [List.map_id] at hsplit
  rw [Option.or_none]
  cases hpair : keyValueAt redactor.alnum before.getLast? after with
  | none => rfl
  | some lengths =>
      obtain ⟨name, space, sep, space', value, rest, hmatches, _⟩ := exists_matches hpair
      exact absurd ⟨before, after, hsplit, name, space, sep, space', value, rest, hmatches⟩ h.2

/-- A run of characters that were in the text spells no secret. -/
theorem infix_redactCells {redactor : Redactor} {text : Text} {run : List Cell}
    (hrun : ∀ x ∈ run, x.2.isSome = true) (h : run <:+: redactor.redactCells text) :
    run <:+: cells text ∧ run.map Prod.fst ∉ redactor.secretValues := by
  have hnonempty : marker ≠ [] := by decide
  have hmarker : ∀ x ∈ marker, ¬ x.2.isSome = true := by decide
  have hfold : ∀ (values : List Text) (t : List Cell), (∀ value ∈ values, value ≠ []) →
      run <:+: values.foldl (fun redacted value => replace Prod.fst marker value redacted) t →
      run <:+: t ∧ run.map Prod.fst ∉ values := by
    intro values
    induction values with
    | nil => exact fun t _ h => ⟨h, List.not_mem_nil⟩
    | cons value values ih =>
        intro t hfilled h
        obtain ⟨hin, hnot⟩ := ih _ (fun w hw => hfilled w (List.mem_cons_of_mem _ hw)) h
        have hone : ∀ w ∈ [value], w ≠ [] := fun w hw => by
          rw [List.mem_singleton.mp hw]
          exact hfilled value List.mem_cons_self
        obtain ⟨hbefore, hvalue⟩ := infix_replaceAny hone hnonempty hmarker hrun hin
        refine ⟨hbefore, fun hmem => ?_⟩
        cases List.mem_cons.mp hmem with
        | inl heq => exact hvalue (List.mem_singleton.mpr heq)
        | inr hmem => exact hnot hmem
  exact hfold _ _ redactor.filled (infix_keyValueFrom hnonempty hmarker hrun h)

/-! ## Values -/

/-- A value that is no string and no container. -/
inductive Scalar where
  | none
  | bool (b : Bool)
  | int (n : Int)
  | float (bits : UInt64)
deriving DecidableEq

/-- A key of a mapping: a string, or another key that `str` shows as `shown`. -/
inductive Key where
  | str (text : Text)
  | other (shown : Text)
deriving DecidableEq

/-- `str(key)`. -/
def Key.shown : Key → Text
  | .str text => text
  | .other shown => shown

/-- A value, over the type of its strings.  The keys of a mapping are distinct. -/
inductive Value (τ : Type) where
  | str (text : τ)
  | scalar (s : Scalar)
  | mapping (items : List (Key × Value τ))
  | list (items : List (Value τ))
  | tuple (items : List (Value τ))

section RedactValue

variable {τ σ : Type}

/-- `value.get("sensitive") is True`. -/
def sensitive (items : List (Key × Value τ)) : Bool :=
  match items.lookup (.str "sensitive".toList) with
  | some (.scalar (.bool true)) => true
  | _ => false

/-- What stands under this key is masked, in a mapping that is marked sensitive or not. -/
def masks (isSensitive : Bool) (key : Key) : Bool :=
  (isSensitive && key = .str "path".toList) || secretNamed key.shown

mutual

/-- `redact_value`, over what redacts a string. -/
def redactValueWith (redact : τ → σ) (mask : σ) : Value τ → Value σ
  | .str text => .str (redact text)
  | .scalar s => .scalar s
  | .mapping items => .mapping (redactItems redact mask (sensitive items) items)
  | .list items => .list (redactList redact mask items)
  | .tuple items => .tuple (redactList redact mask items)

/-- The items of a mapping. -/
def redactItems (redact : τ → σ) (mask : σ) (isSensitive : Bool) :
    List (Key × Value τ) → List (Key × Value σ)
  | [] => []
  | (key, item) :: items =>
      (key, if masks isSensitive key then .str mask else redactValueWith redact mask item) ::
        redactItems redact mask isSensitive items

/-- The items of a list or a tuple. -/
def redactList (redact : τ → σ) (mask : σ) : List (Value τ) → List (Value σ)
  | [] => []
  | item :: items => redactValueWith redact mask item :: redactList redact mask items

end

/-- `redact_value`. -/
def Redactor.redactValue (redactor : Redactor) (value : Value Text) : Value Text :=
  redactValueWith redactor.redactText REDACTION value

/-- `redact_value` on strings whose characters carry their places. -/
def Redactor.redactValueCells (redactor : Redactor) (value : Value Text) : Value (List Cell) :=
  redactValueWith redactor.redactCells marker value

mutual

/-- Change the strings of a value. -/
def Value.map (f : τ → σ) : Value τ → Value σ
  | .str text => .str (f text)
  | .scalar s => .scalar s
  | .mapping items => .mapping (mapItems f items)
  | .list items => .list (mapList f items)
  | .tuple items => .tuple (mapList f items)

/-- Change the strings of the items of a mapping. -/
def mapItems (f : τ → σ) : List (Key × Value τ) → List (Key × Value σ)
  | [] => []
  | (key, item) :: items => (key, item.map f) :: mapItems f items

/-- Change the strings of the items of a list or a tuple. -/
def mapList (f : τ → σ) : List (Value τ) → List (Value σ)
  | [] => []
  | item :: items => item.map f :: mapList f items

end

mutual

theorem map_redactValueWith {ρ : Type} (redact : τ → σ) (mask : σ) (f : σ → ρ) :
    ∀ value : Value τ, (redactValueWith redact mask value).map f =
      redactValueWith (fun text => f (redact text)) (f mask) value
  | .str _ | .scalar _ => rfl
  | .mapping items => congrArg Value.mapping (map_redactItems redact mask f _ items)
  | .list items => congrArg Value.list (map_redactList redact mask f items)
  | .tuple items => congrArg Value.tuple (map_redactList redact mask f items)

theorem map_redactItems {ρ : Type} (redact : τ → σ) (mask : σ) (f : σ → ρ) (isSensitive : Bool) :
    ∀ items : List (Key × Value τ), mapItems f (redactItems redact mask isSensitive items) =
      redactItems (fun text => f (redact text)) (f mask) isSensitive items
  | [] => rfl
  | (key, item) :: items => by
      have hrest := map_redactItems redact mask f isSensitive items
      have hitem := map_redactValueWith redact mask f item
      rw [redactItems, mapItems, redactItems, hrest]
      split
      · rfl
      · rw [hitem]

theorem map_redactList {ρ : Type} (redact : τ → σ) (mask : σ) (f : σ → ρ) :
    ∀ items : List (Value τ), mapList f (redactList redact mask items) =
      redactList (fun text => f (redact text)) (f mask) items
  | [] => rfl
  | item :: items => by
      rw [redactList, mapList, redactList, map_redactValueWith redact mask f item,
        map_redactList redact mask f items]

end

end RedactValue

/-- The strings of the redacted cells are the redacted value. -/
theorem map_redactValueCells (redactor : Redactor) (value : Value Text) :
    (redactor.redactValueCells value).map (List.map Prod.fst) = redactor.redactValue value := by
  have hfun : (fun text => (redactor.redactCells text).map Prod.fst) = redactor.redactText :=
    funext fun text => map_redactCells redactor text
  unfold Redactor.redactValueCells Redactor.redactValue
  rw [map_redactValueWith, hfun, marker_chars]

/-! ## What becomes of a value -/

mutual

/-- The second value is the first one redacted: it has the same shape, under a masked key
it has the marker, and a string with nothing to redact is unchanged. -/
def Redacts (redactor : Redactor) : Value Text → Value Text → Prop
  | .str text, .str text' => redactor.Plain text → text' = text
  | .scalar s, .scalar s' => s' = s
  | .mapping items, .mapping items' => RedactsItems redactor (sensitive items) items items'
  | .list items, .list items' => RedactsList redactor items items'
  | .tuple items, .tuple items' => RedactsList redactor items items'
  | _, _ => False

/-- The items of a mapping, redacted. -/
def RedactsItems (redactor : Redactor) (isSensitive : Bool) :
    List (Key × Value Text) → List (Key × Value Text) → Prop
  | [], [] => True
  | (key, item) :: items, (key', item') :: items' =>
      key' = key ∧
        (if masks isSensitive key then item' = .str REDACTION else Redacts redactor item item') ∧
        RedactsItems redactor isSensitive items items'
  | _, _ => False

/-- The items of a list or a tuple, redacted. -/
def RedactsList (redactor : Redactor) : List (Value Text) → List (Value Text) → Prop
  | [], [] => True
  | item :: items, item' :: items' =>
      Redacts redactor item item' ∧ RedactsList redactor items items'
  | _, _ => False

end

mutual

/-- Every value is redacted. -/
theorem redactValue_redacts (redactor : Redactor) :
    ∀ value : Value Text, Redacts redactor value (redactor.redactValue value)
  | .str _ => redactText_of_plain
  | .scalar _ => rfl
  | .mapping items => redactItems_redacts redactor (sensitive items) items
  | .list items => redactList_redacts redactor items
  | .tuple items => redactList_redacts redactor items

theorem redactItems_redacts (redactor : Redactor) (isSensitive : Bool) :
    ∀ items : List (Key × Value Text),
      RedactsItems redactor isSensitive items
        (redactItems redactor.redactText REDACTION isSensitive items)
  | [] => trivial
  | (key, item) :: items => by
      refine ⟨rfl, ?_, redactItems_redacts redactor isSensitive items⟩
      split
      · rfl
      · exact redactValue_redacts redactor item

theorem redactList_redacts (redactor : Redactor) :
    ∀ items : List (Value Text),
      RedactsList redactor items (redactList redactor.redactText REDACTION items)
  | [] => trivial
  | item :: items => ⟨redactValue_redacts redactor item, redactList_redacts redactor items⟩

end

/-! ## What a redacted value holds -/

/-- No run of characters that were in the input spells one of the values. -/
def CleanText (values : List Text) (text : List Cell) : Prop :=
  ∀ run, run <:+: text → (∀ x ∈ run, x.2.isSome = true) → run.map Prod.fst ∉ values

/-- No value stands in a key that is a string. -/
def CleanKey (values : List Text) : Key → Prop
  | .str text => ∀ value ∈ values, ¬ value <:+: text
  | .other _ => True

mutual

/-- No string anywhere, keys included, holds one of the values outside the markers. -/
def Clean (values : List Text) : Value (List Cell) → Prop
  | .str text => CleanText values text
  | .scalar _ => True
  | .mapping items => CleanItems values items
  | .list items => CleanList values items
  | .tuple items => CleanList values items

/-- No string in the items of a mapping. -/
def CleanItems (values : List Text) : List (Key × Value (List Cell)) → Prop
  | [] => True
  | (key, item) :: items => CleanKey values key ∧ Clean values item ∧ CleanItems values items

/-- No string in the items of a list or a tuple. -/
def CleanList (values : List Text) : List (Value (List Cell)) → Prop
  | [] => True
  | item :: items => Clean values item ∧ CleanList values items

end

mutual

/-- No key holds one of the values, but for the keys below a masked one. -/
def KeysClean (values : List Text) : Value Text → Prop
  | .str _ | .scalar _ => True
  | .mapping items => KeysCleanItems values (sensitive items) items
  | .list items => KeysCleanList values items
  | .tuple items => KeysCleanList values items

/-- No key in the items of a mapping. -/
def KeysCleanItems (values : List Text) (isSensitive : Bool) : List (Key × Value Text) → Prop
  | [] => True
  | (key, item) :: items =>
      CleanKey values key ∧ (masks isSensitive key = false → KeysClean values item) ∧
        KeysCleanItems values isSensitive items

/-- No key in the items of a list or a tuple. -/
def KeysCleanList (values : List Text) : List (Value Text) → Prop
  | [] => True
  | item :: items => KeysClean values item ∧ KeysCleanList values items

end

/-- A redacted string holds no secret outside the markers. -/
theorem cleanText_redactCells (redactor : Redactor) (text : Text) :
    CleanText redactor.secretValues (redactor.redactCells text) :=
  fun _ hin hrun => (infix_redactCells hrun hin).2

theorem cleanText_marker (redactor : Redactor) : CleanText redactor.secretValues marker := by
  intro run hin hrun hmem
  have hnone : ∀ x ∈ marker, x.2.isSome = false := by decide
  cases run with
  | nil => exact redactor.filled _ hmem rfl
  | cons x run =>
      have hx := hnone x (hin.subset List.mem_cons_self)
      rw [hrun x List.mem_cons_self] at hx
      cases hx

mutual

/-- The result is clean exactly when the keys it keeps are. -/
theorem redactValue_clean_iff (redactor : Redactor) :
    ∀ value : Value Text, Clean redactor.secretValues (redactor.redactValueCells value) ↔
      KeysClean redactor.secretValues value
  | .str text => iff_of_true (cleanText_redactCells redactor text) trivial
  | .scalar _ => Iff.rfl
  | .mapping items => redactItems_clean_iff redactor (sensitive items) items
  | .list items => redactList_clean_iff redactor items
  | .tuple items => redactList_clean_iff redactor items

theorem redactItems_clean_iff (redactor : Redactor) (isSensitive : Bool) :
    ∀ items : List (Key × Value Text),
      CleanItems redactor.secretValues (redactItems redactor.redactCells marker isSensitive items) ↔
        KeysCleanItems redactor.secretValues isSensitive items
  | [] => Iff.rfl
  | (key, item) :: items => by
      refine and_congr Iff.rfl (and_congr ?_ (redactItems_clean_iff redactor isSensitive items))
      cases hmasks : masks isSensitive key with
      | true => exact iff_of_true (cleanText_marker redactor) fun h => by cases h
      | false => exact (redactValue_clean_iff redactor item).trans ⟨fun h _ => h, fun h => h rfl⟩

theorem redactList_clean_iff (redactor : Redactor) :
    ∀ items : List (Value Text),
      CleanList redactor.secretValues (redactList redactor.redactCells marker items) ↔
        KeysCleanList redactor.secretValues items
  | [] => Iff.rfl
  | item :: items =>
      and_congr (redactValue_clean_iff redactor item) (redactList_clean_iff redactor items)

end

/-- Everything in the value is redacted, and no string of the result holds a secret outside
the markers. -/
def Redactor.RedactsAll (redactor : Redactor) (value : Value Text) : Prop :=
  Redacts redactor value (redactor.redactValue value) ∧
    Clean redactor.secretValues (redactor.redactValueCells value)

end Kdive

import Mathlib.Data.Bool.AllAny
import Mathlib.Data.List.TakeWhile
import Kdive.Lib.Replacement
import Kdive.Safety.SecretRegistry

/-!
# Redacting a text

`redactText` replaces the known secrets one after the other and then masks the value
of every pair `key=value` whose key sounds secret.  Both passes are defined on texts
whose characters may carry something along.  On plain characters they are the passes
of the program.  On cells, which carry their place in the input, they say which
characters of the input are left (`redactCells`, `map_redactCells`).

*The pattern.*  The pattern of the second pass is

    (?i)\b(NAME*(?:password|passwd|token|api[_-]?key|secret)NAME*)(\s*[=:]\s*)([^\s]+)

where `NAME` is `[A-Za-z0-9_-]`.  No character of `NAME` is a space, `=` or `:`.  So
the first group can only end where the run of name characters ends, and the spaces
and the value behind it are whole runs too.  `keyValueAt` reads the groups off in this
way, without backtracking.  Without case, `[A-Za-z]` also takes the four letters
beyond ASCII that fold to `i`, `s` and `k`.
-/

namespace Kdive

open Replacement

/-- `REDACTION`. -/
def REDACTION : Text := "[REDACTED]".toList

/-! ## Characters -/

/-- A character without its case, as the pattern compares it. -/
def foldCase (c : Char) : Char :=
  if c = 'İ' ∨ c = 'ı' then 'i' else if c = 'ſ' then 's' else if c = '\u212a' then 'k' else c.toLower

/-- `[A-Za-z0-9_-]`, without case. -/
def isNameChar (c : Char) : Bool := (foldCase c).isAlphanum || c = '_' || c = '-'

/-- The characters that `\s` takes. -/
def spaceChars : Text :=
  "\t\n\x0b\x0c\r\x1c\x1d\x1e\x1f \u0085\u00a0\u1680\u2000\u2001\u2002\u2003\u2004".toList ++
    "\u2005\u2006\u2007\u2008\u2009\u200a\u2028\u2029\u202f\u205f\u3000".toList

/-- `\s`. -/
def isSpace (c : Char) : Bool := c ∈ spaceChars

/-- `\w`.  `alnum` is the interpreter's table for what lies beyond ASCII. -/
def isWord (alnum : Char → Bool) (c : Char) : Bool :=
  if c.toNat < 128 then c.isAlphanum || c = '_' else alnum c

/-- `\b` between the character before, if there is one, and the text. -/
def atBoundary (alnum : Char → Bool) (before : Option Char) (text : Text) : Bool :=
  before.any (isWord alnum) != text.head?.any (isWord alnum)

/-- `password|passwd|token|api[_-]?key|secret` -/
def secretWords : List Text :=
  ["password".toList, "passwd".toList, "token".toList, "apikey".toList, "api_key".toList,
    "api-key".toList, "secret".toList]

/-- `_secret_key_pattern.search`. -/
def secretNamed (name : Text) : Bool := secretWords.any fun w => w <:+: name.map foldCase

/-! ## The pair `key=value` -/

/-- The pattern matches at the start of the text: the length of its first two groups and
the length of the third. -/
def keyValueAt (alnum : Char → Bool) (before : Option Char) (text : Text) :
    Option (Nat × Nat) :=
  let name := text.takeWhile isNameChar
  let space := (text.dropWhile isNameChar).takeWhile isSpace
  match (text.dropWhile isNameChar).dropWhile isSpace with
  | [] => none
  | sep :: rest =>
      let space' := rest.takeWhile isSpace
      let value := (rest.dropWhile isSpace).takeWhile fun c => !isSpace c
      if atBoundary alnum before text && secretNamed name && (sep = '=' || sep = ':') &&
          value ≠ [] then
        some (name.length + space.length + 1 + space'.length, value.length)
      else none

/-- The pattern, group by group: the text is a secret-sounding name from a boundary on,
spaces, a separator, spaces, a value and a rest. -/
structure Matches (alnum : Char → Bool) (before : Option Char) (text : Text)
    (name space : Text) (sep : Char) (space' value rest : Text) : Prop where
  text_eq : text = name ++ (space ++ sep :: (space' ++ (value ++ rest)))
  boundary : atBoundary alnum before text = true
  name_chars : ∀ c ∈ name, isNameChar c = true
  named : secretNamed name = true
  spaces : ∀ c ∈ space, isSpace c = true
  separator : sep = '=' ∨ sep = ':'
  spaces' : ∀ c ∈ space', isSpace c = true
  value_ne : value ≠ []
  value_chars : ∀ c ∈ value, isSpace c = false

section Groups

theorem takeWhile_stop {p : Char → Bool} {l rest : Text} {x : Char} (hl : ∀ c ∈ l, p c = true)
    (hx : p x = false) : (l ++ x :: rest).takeWhile p = l := by
  rw [List.takeWhile_append_of_pos hl, List.takeWhile_cons_of_neg (by simp [hx]), List.append_nil]

theorem dropWhile_stop {p : Char → Bool} {l rest : Text} {x : Char} (hl : ∀ c ∈ l, p c = true)
    (hx : p x = false) : (l ++ x :: rest).dropWhile p = x :: rest := by
  rw [List.dropWhile_append_of_pos hl, List.dropWhile_cons_of_neg (by simp [hx])]

/-- A space is no name character. -/
theorem not_isNameChar_of_isSpace {c : Char} (h : isSpace c = true) : isNameChar c = false := by
  have hall : ∀ c ∈ spaceChars, isNameChar c = false :=
    List.all_iff_forall_prop.mp (by decide)
  exact hall c (by simpa [isSpace] using h)

variable {alnum : Char → Bool} {before : Option Char} {text name space space' value rest : Text}
  {sep : Char}

theorem Matches.sep_chars (h : Matches alnum before text name space sep space' value rest) :
    isNameChar sep = false ∧ isSpace sep = false := by
  cases h.separator with
  | inl heq => subst heq; decide
  | inr heq => subst heq; decide

/-- The groups are runs, so they are where the reading finds them. -/
theorem Matches.keyValueAt (h : Matches alnum before text name space sep space' value rest)
    (hrest : ∀ c ∈ rest.head?, isSpace c = true) :
    Kdive.keyValueAt alnum before text =
      some (name.length + space.length + 1 + space'.length, value.length) := by
  obtain ⟨v, value', hvalue⟩ := List.exists_cons_of_ne_nil h.value_ne
  have hv : isSpace v = false := h.value_chars v (hvalue ▸ List.mem_cons_self)
  have hname : text.takeWhile isNameChar = name ∧
      text.dropWhile isNameChar = space ++ sep :: (space' ++ (value ++ rest)) := by
    rw [h.text_eq]
    cases hspace : space with
    | nil => exact ⟨takeWhile_stop h.name_chars h.sep_chars.1, dropWhile_stop h.name_chars h.sep_chars.1⟩
    | cons c space =>
        have hc := not_isNameChar_of_isSpace (h.spaces c (hspace ▸ List.mem_cons_self))
        exact ⟨takeWhile_stop h.name_chars hc, dropWhile_stop h.name_chars hc⟩
  have hspace : (space ++ sep :: (space' ++ (value ++ rest))).takeWhile isSpace = space :=
    takeWhile_stop h.spaces h.sep_chars.2
  have hsep : (space ++ sep :: (space' ++ (value ++ rest))).dropWhile isSpace =
      sep :: (space' ++ (value ++ rest)) := dropWhile_stop h.spaces h.sep_chars.2
  have hspace' : (space' ++ (value ++ rest)).takeWhile isSpace = space' := by
    rw [hvalue]
    exact takeWhile_stop h.spaces' hv
  have hvalues : (space' ++ (value ++ rest)).dropWhile isSpace = value ++ rest := by
    rw [hvalue]
    exact dropWhile_stop h.spaces' hv
  have htaken : (value ++ rest).takeWhile (fun c => !isSpace c) = value := by
    have hall : ∀ c ∈ value, (!isSpace c) = true := fun c hc => by rw [h.value_chars c hc]; rfl
    cases rest with
    | nil => rw [List.append_nil, List.takeWhile_eq_self_iff.mpr hall]
    | cons c rest => exact takeWhile_stop hall (by rw [hrest c rfl]; rfl)
  have hseparator : (decide (sep = '=') || decide (sep = ':')) = true := by
    simpa using h.separator
  unfold Kdive.keyValueAt
  rw [hname.1, hname.2, hspace, hsep]
  show (if _ then some (_, _) else none) = _
  rw [hspace', hvalues, htaken, h.boundary, h.named, hseparator, decide_eq_true h.value_ne]
  rfl

/-- What the reading finds are groups of the pattern, the value as long as it can be. -/
theorem exists_matches {key length : Nat} (h : keyValueAt alnum before text = some (key, length)) :
    ∃ name space sep space' value rest,
      Matches alnum before text name space sep space' value rest ∧
        (∀ c ∈ rest.head?, isSpace c = true) ∧
        key = name.length + space.length + 1 + space'.length ∧ length = value.length := by
  unfold keyValueAt at h
  cases hrest : (text.dropWhile isNameChar).dropWhile isSpace with
  | nil =>
      rw [hrest] at h
      cases h
  | cons sep tail =>
      rw [hrest] at h
      obtain ⟨hif, heq⟩ := Option.ite_none_right_eq_some.mp h
      rw [Bool.and_eq_true, Bool.and_eq_true, Bool.and_eq_true, Bool.or_eq_true,
        decide_eq_true_eq, decide_eq_true_eq, decide_eq_true_eq] at hif
      obtain ⟨⟨⟨hboundary, hnamed⟩, hsep⟩, hvalue⟩ := hif
      rw [Option.some.injEq, Prod.mk.injEq] at heq
      refine ⟨_, _, sep, _, _, ((tail.dropWhile isSpace).dropWhile fun c => !isSpace c),
        ⟨?_, hboundary, fun c hc => List.mem_takeWhile_imp hc, hnamed,
          fun c hc => List.mem_takeWhile_imp hc, hsep, fun c hc => List.mem_takeWhile_imp hc,
          hvalue, fun c hc => by simpa using List.mem_takeWhile_imp hc⟩,
        ?_, heq.1.symm, heq.2.symm⟩
      · rw [List.takeWhile_append_dropWhile, List.takeWhile_append_dropWhile, ← hrest,
          List.takeWhile_append_dropWhile, List.takeWhile_append_dropWhile]
      · intro c hc
        have := List.head?_dropWhile_not (fun c => !isSpace c) (tail.dropWhile isSpace)
        rw [Option.mem_def.mp hc] at this
        simpa using this

end Groups

section Passes

variable {α : Type} (ch : α → Char) (new : List α)

/-- `_key_value_pattern.sub` behind the next `skip` cells. -/
def keyValueFrom (alnum : Char → Bool) : Option Char → Nat → List α → List α
  | _, _, [] => []
  | _, skip + 1, c :: text => keyValueFrom alnum (some (ch c)) skip text
  | before, 0, c :: text =>
      match keyValueAt alnum before ((c :: text).map ch) with
      | some (key, value) =>
          (c :: text).take key ++ new ++ keyValueFrom alnum (some (ch c)) (key + value - 1) text
      | none => c :: keyValueFrom alnum (some (ch c)) 0 text

/-- `_key_value_pattern.sub`: keep the first two groups and mask the third. -/
def keyValueSub (alnum : Char → Bool) (text : List α) : List α :=
  keyValueFrom ch new alnum none 0 text

end Passes

/-! ## The redactor -/

/-- `Redactor`.  `alnum` belongs to its compiled pattern. -/
structure Redactor where
  secretValues : List Text
  filled : ∀ value ∈ secretValues, value ≠ []
  alnum : Char → Bool

namespace Redactor

/-- `Redactor(secret_values)`, where the registry's snapshot is walked through in
`order`. -/
def create (alnum : Char → Bool) (order : List Text) (secretValues : List Text) : Redactor where
  secretValues := (order ++ secretValues).filter fun value => value ≠ []
  filled := fun value hvalue => by simpa using (List.mem_filter.mp hvalue).2
  alnum := alnum

/-- Both passes, on characters that carry something along. -/
def redactWith {α : Type} (ch : α → Char) (new : List α) (redactor : Redactor) (text : List α) :
    List α :=
  keyValueSub ch new redactor.alnum
    (redactor.secretValues.foldl (fun redacted value => replace ch new value redacted) text)

/-- `redact_text`. -/
def redactText (redactor : Redactor) (text : Text) : Text :=
  redactor.redactWith id REDACTION text

end Redactor

/-! ## Where the characters come from -/

/-- A character, and its place in the input unless a redaction put it in. -/
abbrev Cell := Char × Option Nat

/-- The characters of a text with their places. -/
def cells (text : Text) : List Cell := text.zipIdx.map fun entry => (entry.1, some entry.2)

/-- The marker, which comes from no place. -/
def marker : List Cell := REDACTION.map fun c => (c, none)

/-- `redact_text` on cells. -/
def Redactor.redactCells (redactor : Redactor) (text : Text) : List Cell :=
  redactor.redactWith Prod.fst marker (cells text)

end Kdive

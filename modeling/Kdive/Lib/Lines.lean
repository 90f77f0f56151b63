import Mathlib.Algebra.GroupWithZero.Nat
import Mathlib.Data.List.Basic
import Mathlib.Data.List.DropRight
import Mathlib.Data.List.TakeWhile

/-!
# Lines of a text

A text is read line by line.  A newline ends a line, and a last line needs none.  Lines
without newlines are read as they were written (`read_terminated`), and a newline in one of
them makes two (`length_read_terminated`).  `splitlines` ends a line at every boundary that
Unicode knows.
-/

namespace Lines

variable {α : Type _}

/-! ## Pieces between separators -/

theorem length_splitOnP (p : α → Bool) (xs : List α) :
    (xs.splitOnP p).length = xs.countP p + 1 := by
  induction xs with
  | nil => simp
  | cons x xs ih =>
      rw [List.splitOnP_cons_eq_if_modifyHead]
      split
      · next hx => simp [ih, hx]
      · next hx => simp [ih, hx]

/-- No piece has a separator. -/
theorem not_of_mem_splitOnP {p : α → Bool} {xs piece : List α} (h : piece ∈ xs.splitOnP p) :
    ∀ x ∈ piece, p x = false := by
  induction xs generalizing piece with
  | nil =>
      intro x hx
      simp at h
      simp [h] at hx
  | cons x xs ih =>
      rw [List.splitOnP_cons_eq_if_modifyHead] at h
      split at h
      · cases h with
        | head => simp
        | tail _ h => exact ih h
      · next hx =>
          obtain ⟨first, rest, hsplit⟩ := List.exists_cons_of_ne_nil (List.splitOnP_ne_nil p xs)
          rw [hsplit] at h ih
          cases h with
          | head =>
              intro y hy
              cases hy with
              | head => simpa using hx
              | tail _ hy => exact ih List.mem_cons_self y hy
          | tail _ h => exact ih (List.mem_cons_of_mem _ h)

/-- What has no separator lies on one side of it. -/
theorem infix_or_of_infix {token left right : List α} {sep : α} (hsep : sep ∉ token)
    (h : token <:+: left ++ sep :: right) : token <:+: left ∨ token <:+: right := by
  obtain ⟨before, after, heq⟩ := h
  rcases List.append_eq_append_iff.mp heq with ⟨rest, hleft, -⟩ | ⟨rest, hall, hrest⟩
  · exact .inl ⟨before, rest, hleft.symm⟩
  · cases rest with
    | nil => exact .inl ⟨before, [], by simpa using hall⟩
    | cons c rest =>
        rw [List.cons_append, List.cons.injEq] at hrest
        obtain ⟨rfl, rfl⟩ := hrest
        rcases List.append_eq_append_iff.mp hall with ⟨mid, -, htoken⟩ | ⟨mid, -, htoken⟩
        · exact absurd (htoken ▸ by simp) hsep
        · cases mid with
          | nil =>
              rw [List.nil_append] at htoken
              exact absurd (htoken ▸ List.mem_cons_self) hsep
          | cons _ mid =>
              rw [List.cons_append, List.cons.injEq] at htoken
              exact .inr ⟨mid, after, by rw [htoken.2]⟩

/-- A separator in front of what has none can be left out. -/
theorem infix_of_infix_cons {token right : List α} {sep : α} (hsep : sep ∉ token)
    (hne : token ≠ []) (h : token <:+: sep :: right) : token <:+: right := by
  rw [← List.nil_append (sep :: right)] at h
  rcases infix_or_of_infix hsep h with h | h
  · exact absurd (List.infix_nil.mp h) hne
  · exact h

/-! ## Lines -/

/-- The lines of a text. -/
def read (text : List Char) : List (List Char) :=
  if (text.splitOn '\n').getLast? = some [] then (text.splitOn '\n').dropLast
  else text.splitOn '\n'

theorem read_append_newline (text : List Char) : read (text ++ ['\n']) = text.splitOn '\n' := by
  have hsplit : (text ++ ['\n']).splitOn '\n' = text.splitOn '\n' ++ [[]] :=
    List.splitOn_append_cons_self text []
  rw [read, hsplit, if_pos (by simp), List.dropLast_concat]

/-- Lines without newlines are read as they were written. -/
theorem read_terminated {lines : List (List Char)} (hlines : ∀ line ∈ lines, '\n' ∉ line)
    (hne : lines ≠ []) : read (['\n'].intercalate lines ++ ['\n']) = lines := by
  rw [read_append_newline, List.splitOn_intercalate '\n' hlines hne]

theorem count_intercalate {lines : List (List Char)} (hne : lines ≠ []) :
    (['\n'].intercalate lines).count '\n' + 1 =
      (lines.map (List.count '\n')).sum + lines.length := by
  induction lines with
  | nil => exact absurd rfl hne
  | cons line lines ih =>
      cases lines with
      | nil => simp
      | cons next lines =>
          have hrest := ih (List.cons_ne_nil _ _)
          simp at hrest ⊢
          omega

/-- Each newline in a line makes a line more. -/
theorem length_read_terminated {lines : List (List Char)} (hne : lines ≠ []) :
    (read (['\n'].intercalate lines ++ ['\n'])).length =
      (lines.map (List.count '\n')).sum + lines.length := by
  rw [read_append_newline, List.splitOn_eq_splitOnP, length_splitOnP, ← List.count_eq_countP,
    count_intercalate hne]

/-! ## Blanks -/

/-- A text without the blanks at its ends. -/
def trim (blank : Char → Bool) (text : List Char) : List Char :=
  (text.dropWhile blank).rdropWhile blank

/-- A text with no blank at its ends. -/
structure Trimmed (blank : Char → Bool) (text : List Char) : Prop where
  head : ∀ c ∈ text.head?, blank c = false
  last : ∀ c ∈ text.getLast?, blank c = false

theorem trimmed_trim (blank : Char → Bool) (text : List Char) : Trimmed blank (trim blank text) where
  head := by
    intro c hc
    have hprefix := List.rdropWhile_prefix blank (l := text.dropWhile blank)
    have hdropped : c ∈ (text.dropWhile blank).head? := by
      obtain ⟨rest, hrest⟩ := hprefix
      rw [← hrest, List.head?_append]
      exact Option.or_eq_some_iff.mpr (.inl hc)
    have hnot := List.head?_dropWhile_not blank text
    rw [Option.mem_def.mp hdropped] at hnot
    simpa using hnot
  last := by
    intro c hc
    obtain ⟨hne, rfl⟩ := List.mem_getLast?_eq_getLast hc
    have hnot := List.rdropWhile_last_not blank (text.dropWhile blank) hne
    exact Bool.not_eq_true _ ▸ hnot

theorem dropWhile_eq_self {blank : Char → Bool} {text : List Char} (h : Trimmed blank text) :
    text.dropWhile blank = text := by
  cases text with
  | nil => rfl
  | cons first rest =>
      have hfirst : ¬ blank first = true := by simpa using h.head first rfl
      exact List.dropWhile_cons_of_neg hfirst

theorem rdropWhile_eq_self {blank : Char → Bool} {text : List Char} (h : Trimmed blank text) :
    text.rdropWhile blank = text := by
  rw [List.rdropWhile_eq_self_iff]
  intro hne
  simpa using h.last _ (List.getLast?_eq_some_getLast hne)

/-- A text with no blank at its ends is not changed. -/
theorem trim_eq_self {blank : Char → Bool} {text : List Char} (h : Trimmed blank text) :
    trim blank text = text := by
  rw [trim, dropWhile_eq_self h, rdropWhile_eq_self h]

/-- A blank behind it is taken away. -/
theorem trim_append {blank : Char → Bool} {text : List Char} {c : Char} (h : Trimmed blank text)
    (hc : blank c = true) : trim blank (text ++ [c]) = text := by
  cases text with
  | nil => simp [trim, hc]
  | cons first rest =>
      have hfirst : ¬ blank first = true := by simpa using h.head first rfl
      rw [trim, List.cons_append, List.dropWhile_cons_of_neg hfirst, ← List.cons_append,
        List.rdropWhile_concat_pos blank _ c hc, rdropWhile_eq_self h]

/-! ## Boundaries of Unicode -/

/-- The characters that end a line for `splitlines`. -/
def boundaries : List Char :=
  ['\n', '\r', '\x0b', '\x0c', '\x1c', '\x1d', '\x1e', '\u0085', '\u2028', '\u2029']

/-- A character that ends a line. -/
def isBoundary (c : Char) : Bool := c ∈ boundaries

/-- `text.splitlines()` -/
def splitlines : List Char → List (List Char)
  | [] => []
  | '\r' :: '\n' :: text => [] :: splitlines text
  | c :: text =>
      if isBoundary c then [] :: splitlines text
      else
        match splitlines text with
        | [] => [[c]]
        | line :: lines => (c :: line) :: lines

theorem splitlines_single {c : Char} {text : List Char}
    (h : ∀ rest, c = '\r' → text = '\n' :: rest → False) :
    splitlines (c :: text) =
      if isBoundary c then [] :: splitlines text
      else
        match splitlines text with
        | [] => [[c]]
        | line :: lines => (c :: line) :: lines := by
  rw [splitlines]
  exact h

theorem splitlines_cons {c : Char} (hc : isBoundary c = false) (text : List Char) :
    splitlines (c :: text) =
      match splitlines text with
      | [] => [[c]]
      | line :: lines => (c :: line) :: lines := by
  have hne : c ≠ '\r' := fun heq => by
    rw [heq] at hc
    exact absurd hc (by decide)
  rw [splitlines_single fun _ heq => absurd heq hne, hc]
  rfl

theorem splitlines_newline (text : List Char) : splitlines ('\n' :: text) = [] :: splitlines text := by
  rw [splitlines_single fun _ heq => absurd heq (by decide)]
  rfl

theorem splitlines_ne_nil {text : List Char} (h : text ≠ []) : splitlines text ≠ [] := by
  cases text using splitlines.fun_cases with
  | case1 => exact absurd rfl h
  | case2 text =>
      rw [splitlines]
      exact List.cons_ne_nil _ _
  | case3 c text hcrlf hc =>
      rw [splitlines_single hcrlf, if_pos hc]
      exact List.cons_ne_nil _ _
  | case4 c text hcrlf hc hnil =>
      rw [splitlines_single hcrlf, if_neg hc, hnil]
      exact List.cons_ne_nil _ _
  | case5 c text hcrlf hc line lines hlines =>
      rw [splitlines_single hcrlf, if_neg hc, hlines]
      exact List.cons_ne_nil _ _

/-- A line without boundaries, with its newline. -/
theorem splitlines_line {line : List Char} (h : ∀ c ∈ line, isBoundary c = false)
    (rest : List Char) : splitlines (line ++ '\n' :: rest) = line :: splitlines rest := by
  induction line with
  | nil => exact splitlines_newline rest
  | cons c line ih =>
      rw [List.cons_append, splitlines_cons (h c List.mem_cons_self),
        ih fun d hd => h d (List.mem_cons_of_mem _ hd)]

/-- Lines without boundaries are read as they were written. -/
theorem splitlines_terminated {lines : List (List Char)}
    (h : ∀ line ∈ lines, ∀ c ∈ line, isBoundary c = false) :
    splitlines (lines.flatMap fun line => line ++ ['\n']) = lines := by
  induction lines with
  | nil => rfl
  | cons line lines ih =>
      rw [List.flatMap_cons, List.append_assoc, List.singleton_append,
        splitlines_line (h line List.mem_cons_self), ih fun l hl => h l (List.mem_cons_of_mem _ hl)]

/-- What has no boundary goes in front of the first line. -/
theorem splitlines_append {front : List Char} (h : ∀ c ∈ front, isBoundary c = false)
    {text line : List Char} {lines : List (List Char)} (htext : splitlines text = line :: lines) :
    splitlines (front ++ text) = (front ++ line) :: lines := by
  induction front with
  | nil => exact htext
  | cons c front ih =>
      rw [List.cons_append, splitlines_cons (h c List.mem_cons_self),
        ih fun d hd => h d (List.mem_cons_of_mem _ hd)]
      rfl

/-- Behind a character that is no boundary a newline ends a line. -/
theorem splitlines_closed (text : List Char) {c : Char} (hc : isBoundary c = false)
    (rest : List Char) :
    splitlines (text ++ c :: '\n' :: rest) = splitlines (text ++ [c]) ++ splitlines rest := by
  have hcr {d : Char} {text : List Char} (h : ∀ rest, d = '\r' → text = '\n' :: rest → False)
      (tail : List Char) : ∀ rest, d = '\r' → text ++ c :: tail = '\n' :: rest → False := by
    intro rest hd heq
    cases text with
    | nil =>
        rw [List.nil_append, List.cons.injEq] at heq
        rw [heq.1] at hc
        exact absurd hc (by decide)
    | cons e text =>
        rw [List.cons_append, List.cons.injEq] at heq
        exact h text hd (by rw [heq.1])
  induction text using splitlines.induct with
  | case1 =>
      rw [List.nil_append, splitlines_cons hc, splitlines_newline]
      show _ = splitlines (c :: []) ++ _
      rw [splitlines_cons hc]
      rfl
  | case2 text ih =>
      show splitlines ('\r' :: '\n' :: (text ++ c :: '\n' :: rest)) =
        splitlines ('\r' :: '\n' :: (text ++ [c])) ++ _
      rw [splitlines, splitlines, ih]
      rfl
  | case3 d text hcrlf hd ih =>
      rw [List.cons_append, List.cons_append, splitlines_single (hcr hcrlf _),
        splitlines_single (hcr hcrlf _), if_pos hd, if_pos hd, ih]
      rfl
  | case4 d text hcrlf hd hnil ih | case5 d text hcrlf hd line lines hlines ih =>
      have hne : splitlines (text ++ [c]) ≠ [] := splitlines_ne_nil (by simp)
      obtain ⟨first, others, hfirst⟩ := List.exists_cons_of_ne_nil hne
      rw [List.cons_append, List.cons_append, splitlines_single (hcr hcrlf _),
        splitlines_single (hcr hcrlf _), if_neg hd, if_neg hd, ih, hfirst]
      rfl

end Lines

import Mathlib.Data.List.Basic

/-!
# Tokens of Python programs

A program is read character by character.  A string literal on one line is a token with the
characters between its quotes, a comment is none, and any other character is one by itself.

*Refusals.*  A newline inside a literal is an error of the language.  Backslashes and
triple-quoted literals are not read here: `scan` refuses them.

`scan_append` reads a program in pieces, and `scan_quoted` reads one literal.
-/

namespace PythonTokens

abbrev Text := List Char

/-- A token. -/
inductive Token where
  | code (c : Char)
  | str (text : Text)
deriving DecidableEq, Repr

/-- Where a character stands. -/
inductive State where
  | code
  | comment
  /-- In a literal, behind some characters of it, the last one first. -/
  | quoted (quote : Char) (read : Text)
  /-- Behind a literal that is empty. -/
  | empty (quote : Char)
deriving DecidableEq, Repr

def isNewline (c : Char) : Bool := c = '\n' || c = '\r'

def isQuote (c : Char) : Bool := c = '"' || c = '\''

/-- A character of code. -/
def stepCode (c : Char) : Option (State × List Token) :=
  if c = '#' then some (.comment, [])
  else if isQuote c then some (.quoted c [], [])
  else if c = '\\' then none
  else some (.code, [.code c])

/-- One character. -/
def step : State → Char → Option (State × List Token)
  | .code, c => stepCode c
  | .comment, c => if isNewline c then some (.code, [.code c]) else some (.comment, [])
  | .quoted quote read, c =>
      if c = quote then
        some (if read = [] then .empty quote else .code, [.str read.reverse])
      else if isNewline c || c = '\\' then none
      else some (.quoted quote (c :: read), [])
  -- a third quote would start a triple-quoted literal
  | .empty quote, c => if c = quote then none else stepCode c

/-- Some characters. -/
def scan : State → Text → Option (State × List Token)
  | state, [] => some (state, [])
  | state, c :: text => do
      let (state, tokens) ← step state c
      let (state, more) ← scan state text
      return (state, tokens ++ more)

/-- The state behind some characters. -/
def behind : Option State → Text → Option State
  | none, _ => none
  | state, [] => state
  | some state, c :: text => behind ((step state c).map Prod.fst) text

/-- The tokens of some characters of code. -/
def tokens (text : Text) : List Token := ((scan .code text).map Prod.snd).getD []

theorem behind_none (text : Text) : behind none text = none := by cases text <;> rfl

theorem behind_eq (state : State) (text : Text) :
    behind (some state) text = (scan state text).map Prod.fst := by
  induction text generalizing state with
  | nil => rfl
  | cons c text ih =>
      rw [behind, scan]
      cases step state c with
      | none => exact behind_none text
      | some next =>
          obtain ⟨next, found⟩ := next
          rw [Option.map_some, ih]
          show _ = ((scan next text).bind fun read => some (read.1, found ++ read.2)).map Prod.fst
          cases scan next text <;> rfl

/-- Text that is code from one end to the other. -/
theorem scan_of_behind {text : Text} (h : behind (some .code) text = some .code) :
    scan .code text = some (.code, tokens text) := by
  rw [behind_eq] at h
  obtain ⟨⟨state, found⟩, hscan, rfl⟩ := Option.map_eq_some_iff.mp h
  rw [tokens, hscan]
  rfl

theorem behind_append (state : Option State) (left right : Text) :
    behind state (left ++ right) = behind (behind state left) right := by
  induction left generalizing state with
  | nil => cases state <;> rfl
  | cons c left ih =>
      cases state with
      | none => exact (behind_none right).symm
      | some state => exact ih _

/-- A program is read in pieces. -/
theorem scan_append (state : State) (left right : Text) :
    scan state (left ++ right) = (scan state left).bind fun read =>
      (scan read.1 right).map fun rest => (rest.1, read.2 ++ rest.2) := by
  induction left generalizing state with
  | nil =>
      rw [List.nil_append, scan, Option.bind_some]
      cases scan state right <;> rfl
  | cons c left ih =>
      rw [List.cons_append, scan, scan]
      cases step state c with
      | none => rfl
      | some next =>
          obtain ⟨next, found⟩ := next
          show ((scan next (left ++ right)).bind fun read => some (read.1, found ++ read.2)) =
            (((scan next left).bind fun read => some (read.1, found ++ read.2)).bind _)
          rw [ih]
          cases scan next left with
          | none => rfl
          | some read =>
              show ((Option.map _ _).bind _) = Option.map _ _
              cases scan read.1 right <;> simp

/-! ## Literals -/

/-- A character that stands for itself in a literal. -/
def isPlain (quote c : Char) : Bool := c ≠ quote && !isNewline c && c ≠ '\\'

/-- The text between the quotes of a literal. -/
def Plain (quote : Char) (text : Text) : Prop := ∀ c ∈ text, isPlain quote c = true

/-- A text that a newline cuts off. -/
def CutOff (quote : Char) (text : Text) : Prop :=
  ∃ before c after, text = before ++ c :: after ∧ Plain quote before ∧ c ≠ quote ∧ isNewline c = true

theorem step_plain {quote c : Char} (h : isPlain quote c = true) (read : Text) :
    step (.quoted quote read) c = some (.quoted quote (c :: read), []) := by
  rw [isPlain, Bool.and_eq_true, Bool.and_eq_true, decide_eq_true_eq] at h
  obtain ⟨⟨hquote, hnewline⟩, hslash⟩ := h
  have hend : ¬ (isNewline c || decide (c = '\\')) = true := by
    rw [Bool.or_eq_true, decide_eq_true_eq, not_or]
    exact ⟨by simpa using hnewline, by simpa using hslash⟩
  rw [step, if_neg hquote, if_neg hend]

/-- The characters of a literal are collected. -/
theorem scan_plain {quote : Char} {text : Text} (h : Plain quote text) (read : Text) :
    scan (.quoted quote read) text = some (.quoted quote (text.reverse ++ read), []) := by
  induction text generalizing read with
  | nil => rfl
  | cons c text ih =>
      rw [Plain, List.forall_mem_cons] at h
      rw [scan, step_plain h.1]
      show ((scan (.quoted quote (c :: read)) text).bind fun next => some (next.1, [] ++ next.2)) = _
      rw [ih h.2, List.reverse_cons, List.append_assoc]
      rfl

/-- The state behind a literal. -/
def closed (quote : Char) (text : Text) : State := if text = [] then .empty quote else .code

/-- A literal is one token. -/
theorem scan_quoted {quote : Char} {text : Text} (hquote : isQuote quote = true)
    (h : Plain quote text) :
    scan .code (quote :: text ++ [quote]) = some (closed quote text, [.str text]) := by
  have hopen : scan .code [quote] = some (.quoted quote [], []) := by
    have hcomment : quote ≠ '#' := by
      rintro rfl
      cases hquote
    rw [scan, step, stepCode, if_neg hcomment, if_pos hquote]
    rfl
  rw [← List.singleton_append, List.append_assoc, scan_append, hopen]
  show Option.map _ (scan (.quoted quote []) (text ++ [quote])) = _
  rw [scan_append, scan_plain h]
  show Option.map _ (Option.map _ (scan (.quoted quote (text.reverse ++ [])) [quote])) = _
  rw [List.append_nil, scan, step, if_pos rfl, List.reverse_reverse]
  simp [scan, closed]

/-- A literal that is cut off is none. -/
theorem scan_cutOff {quote : Char} {text : Text} (hquote : isQuote quote = true)
    (h : CutOff quote text) (rest : Text) : scan .code (quote :: text ++ rest) = none := by
  obtain ⟨before, c, after, rfl, hplain, hne, hnewline⟩ := h
  have hopen : scan .code [quote] = some (.quoted quote [], []) := by
    have hcomment : quote ≠ '#' := by
      rintro rfl
      cases hquote
    rw [scan, step, stepCode, if_neg hcomment, if_pos hquote]
    rfl
  rw [← List.singleton_append, List.append_assoc, scan_append, hopen]
  show Option.map _ (scan (.quoted quote []) ((before ++ c :: after) ++ rest)) = _
  rw [List.append_assoc, scan_append, scan_plain hplain]
  show Option.map _ (Option.map _ (scan (.quoted quote (before.reverse ++ [])) (c :: after ++ rest))) = _
  rw [List.cons_append, scan, step, if_neg hne, if_pos (by simp [hnewline])]
  rfl

/-- Code behind a literal does not start with its quote. -/
theorem scan_closed {quote c : Char} (text rest : Text) (hne : c ≠ quote) :
    scan (closed quote text) (c :: rest) = scan .code (c :: rest) := by
  rw [closed]
  split
  · rw [scan, scan, step, step, if_neg hne]
  · rfl

/-! ## Dictionaries of numbers -/

/-- A character that is a token of its own wherever there is code. -/
def isBare (c : Char) : Bool := c ≠ '#' && !isQuote c && c ≠ '\\'

theorem scan_bare {text : Text} (h : ∀ c ∈ text, isBare c = true) :
    scan .code text = some (.code, text.map .code) := by
  induction text with
  | nil => rfl
  | cons c text ih =>
      rw [List.forall_mem_cons] at h
      obtain ⟨hc, htext⟩ := h
      rw [isBare, Bool.and_eq_true, Bool.and_eq_true, decide_eq_true_eq, decide_eq_true_eq,
        Bool.not_eq_true'] at hc
      obtain ⟨⟨hcomment, hquote⟩, hslash⟩ := hc
      rw [scan, step, stepCode, if_neg hcomment, if_neg (by simp [hquote]), if_neg hslash]
      show ((scan .code text).bind fun read => some (read.1, [.code c] ++ read.2)) = _
      rw [ih htext]
      rfl

mutual

/-- The items of a dictionary literal of strings and decimal numbers, up to its end. -/
def readItems : List Token → Option (List (Text × Nat))
  | .str key :: .code ':' :: tokens => readNumber key 0 tokens
  | _ => none

/-- A number behind some of its digits, and the items behind it. -/
def readNumber (key : Text) (n : Nat) : List Token → Option (List (Text × Nat))
  | [.code '}'] => some [(key, n)]
  | .code ',' :: tokens => (readItems tokens).map ((key, n) :: ·)
  | .code c :: tokens =>
      if c.isDigit then readNumber key (10 * n + (c.toNat - '0'.toNat)) tokens else none
  | _ => none

end

/-- A dictionary literal of strings and decimal numbers. -/
def readDict (tokens : List Token) : Option (List (Text × Nat)) :=
  match tokens.filter fun token => token ≠ .code ' ' with
  | .code '{' :: tokens => readItems tokens
  | _ => none

theorem readNumber_digits (key : Text) {digits : Text} (h : ∀ c ∈ digits, c.isDigit = true)
    (n : Nat) (tokens : List Token) :
    readNumber key n (digits.map .code ++ tokens) =
      readNumber key (Nat.ofDigitChars 10 digits n) tokens := by
  induction digits generalizing n with
  | nil => rfl
  | cons c digits ih =>
      rw [List.forall_mem_cons] at h
      rw [Nat.ofDigitChars_cons, ← ih h.2, List.map_cons, List.cons_append]
      have hcomma : c ≠ ',' := by
        rintro rfl
        cases h.1
      have hbrace : c ≠ '}' := by
        rintro rfl
        cases h.1
      rw [readNumber.eq_def]
      split
      · next heq => simp_all
      · next heq => simp_all
      · next heq => simp_all
      · next hall => exact absurd rfl (hall c _)

end PythonTokens

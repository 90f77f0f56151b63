import Mathlib.Algebra.GroupWithZero.Nat
import Mathlib.Data.List.Basic

/-!
# Words of a command line

Three ways to split a line into words.

*Machine words* (`splitWords`).  Words are separated by blanks.  A word that begins
with a double quote is a C string: it goes to the closing quote, and a backslash
introduces an escape.  In other words a backslash or a quote means nothing.

*Console words* (`splitConsole`).  Words are separated by blanks.  Single and double
quotes keep blanks in a word and are taken away, and a backslash takes the next
character as it is.

*Kernel words* (`splitKernel`).  Words are separated by blanks outside of double
quotes.  The quotes stay, and nothing else is special.

Plain words, which have no blank, no quote and no backslash, are split as they were
joined (`splitWords_joined`, `splitConsole_joined`).  Quotes and backslashes are used
up: `splitConsole_size_lt` says the words of a line with one of them are shorter than
the line, and `quoted_size_lt` says it of a C string with an escape.  Kernel words
that close their quotes and keep their blanks inside of them are split as they were
joined (`splitKernel_joined`).
-/

namespace CommandLine

/-- `isspace` of C. -/
def isBlank (c : Char) : Bool :=
  c = ' ' || c = '\t' || c = '\n' || c = '\x0b' || c = '\x0c' || c = '\r'

/-- A quote or a backslash. -/
def isSpecial (c : Char) : Bool := c = '"' || c = '\'' || c = '\\'

/-- A word that no splitting looks into. -/
def Plain (word : List Char) : Prop :=
  word ≠ [] ∧ ∀ c ∈ word, isBlank c = false ∧ isSpecial c = false

/-- Words with one blank between any two. -/
def joined : List (List Char) → List Char
  | [] => []
  | [word] => word
  | word :: next :: words => word ++ ' ' :: joined (next :: words)

/-- The room words take: each of them with one character behind it. -/
def size (words : List (List Char)) : Nat := (words.map fun word => word.length + 1).sum

@[simp] theorem size_nil : size [] = 0 := rfl

@[simp] theorem size_cons (word : List Char) (words : List (List Char)) :
    size (word :: words) = word.length + 1 + size words := by
  simp [size]

theorem size_eq (words : List (List Char)) (h : words ≠ []) :
    size words = (joined words).length + 1 := by
  induction words with
  | nil => exact absurd rfl h
  | cons word words ih =>
      cases words with
      | nil => simp [joined]
      | cons next words =>
          have := ih (List.cons_ne_nil _ _)
          simp [joined] at this ⊢
          omega

/-! ## Console words -/

/-- The quotes a splitting is inside of. -/
inductive Quote where
  | none
  | single
  | double
deriving DecidableEq

/-- Where a splitting stands: between words, in a word, or behind a backslash. -/
inductive Console where
  | gap
  | word (taken : List Char) (quote : Quote)
  | escape (taken : List Char) (quote : Quote)

/-- The next character of a word. -/
def advance (taken : List Char) (quote : Quote) (c : Char) : Console :=
  if c = '\\' then .escape taken quote
  else
    match quote with
    | .single => if c = '\'' then .word taken .none else .word (taken ++ [c]) .single
    | .double => if c = '"' then .word taken .none else .word (taken ++ [c]) .double
    | .none =>
        if c = '\'' then .word taken .single
        else if c = '"' then .word taken .double
        else .word (taken ++ [c]) .none

/-- Split what is left of a line. -/
def splitConsole : Console → List Char → List (List Char)
  | .gap, [] => []
  | .gap, c :: line =>
      if isBlank c then splitConsole .gap line else splitConsole (advance [] .none c) line
  | .word taken _, [] => [taken]
  | .word taken quote, c :: line =>
      if isBlank c && quote = .none then taken :: splitConsole .gap line
      else splitConsole (advance taken quote c) line
  | .escape taken _, [] => [taken]
  | .escape taken quote, c :: line => splitConsole (.word (taken ++ [c]) quote) line

/-- The room of what a splitting has taken. -/
def Console.taken : Console → Nat
  | .gap => 0
  | .word taken _ | .escape taken _ => taken.length

/-- A character makes a word longer by one at most. -/
theorem taken_advance (taken : List Char) (quote : Quote) (c : Char) :
    (advance taken quote c).taken ≤ taken.length + 1 := by
  unfold advance
  split
  · simp [Console.taken]
  · split <;> (try split) <;> (try split) <;> simp [Console.taken]

/-- The words of a line take no more room than the line. -/
theorem splitConsole_size_le (line : List Char) (state : Console) :
    size (splitConsole state line) ≤ state.taken + line.length + 1 := by
  induction line generalizing state with
  | nil => cases state <;> simp [splitConsole, Console.taken]
  | cons c line ih =>
      cases state with
      | gap =>
          have hgap := ih .gap
          have hword := ih (advance [] .none c)
          have htaken := taken_advance [] .none c
          simp [splitConsole, Console.taken] at *
          split <;> omega
      | word taken quote =>
          have hgap := ih .gap
          have hword := ih (advance taken quote c)
          have htaken := taken_advance taken quote c
          simp [splitConsole, Console.taken] at *
          split
          · simp
            omega
          · omega
      | escape taken quote =>
          have hword := ih (.word (taken ++ [c]) quote)
          simp [splitConsole, Console.taken] at *
          omega

/-- A quote or a backslash outside quotes adds nothing to a word. -/
theorem taken_advance_special {c : Char} (hc : isSpecial c = true) (taken : List Char) :
    (advance taken .none c).taken = taken.length := by
  simp [isSpecial] at hc
  rcases hc with (rfl | rfl) | rfl <;> rfl

theorem isBlank_of_isSpecial {c : Char} (hc : isSpecial c = true) : isBlank c = false := by
  simp [isSpecial] at hc
  rcases hc with (rfl | rfl) | rfl <;> rfl

/-- A character that is not special is taken. -/
theorem advance_plain {c : Char} (hc : isSpecial c = false) (taken : List Char) :
    advance taken .none c = .word (taken ++ [c]) .none := by
  simp [isSpecial] at hc
  simp [advance, hc]

/-- In a line with a quote or a backslash the words take less room. -/
theorem splitConsole_size_lt {line : List Char} (h : ∃ c ∈ line, isSpecial c = true) :
    size (splitConsole .gap line) ≤ line.length ∧
      ∀ taken, size (splitConsole (.word taken .none) line) ≤ taken.length + line.length := by
  induction line with
  | nil => simp at h
  | cons c line ih =>
      cases hc : isSpecial c with
      | true =>
          have hblank := isBlank_of_isSpecial hc
          constructor
          · have hword := splitConsole_size_le line (advance [] .none c)
            rw [taken_advance_special hc] at hword
            simp [splitConsole, hblank] at *
            omega
          · intro taken
            have hword := splitConsole_size_le line (advance taken .none c)
            rw [taken_advance_special hc] at hword
            simp [splitConsole, hblank] at *
            omega
      | false =>
          have hrest : ∃ c ∈ line, isSpecial c = true := by
            obtain ⟨x, hx, hspecial⟩ := h
            cases List.mem_cons.mp hx with
            | inl heq =>
                rw [heq, hc] at hspecial
                cases hspecial
            | inr hx => exact ⟨x, hx, hspecial⟩
          obtain ⟨hgap, hword⟩ := ih hrest
          constructor
          · have hone := hword [c]
            simp [splitConsole, advance_plain hc] at *
            split <;> omega
          · intro taken
            have hmore := hword (taken ++ [c])
            simp [splitConsole, advance_plain hc] at *
            split
            · simp
              omega
            · omega

/-- The characters of a plain word are taken one after the other. -/
theorem splitConsole_word {word : List Char} (hword : ∀ c ∈ word, isBlank c = false ∧
    isSpecial c = false) (taken rest : List Char) :
    splitConsole (.word taken .none) (word ++ rest) =
      splitConsole (.word (taken ++ word) .none) rest := by
  induction word generalizing taken with
  | nil => simp
  | cons c word ih =>
      obtain ⟨hblank, hspecial⟩ := hword c List.mem_cons_self
      have hrest := ih (fun x hx => hword x (List.mem_cons_of_mem _ hx)) (taken ++ [c])
      simp [splitConsole, hblank, advance_plain hspecial, hrest]

/-- A plain word is found from a gap. -/
theorem splitConsole_gap {word : List Char} (hword : Plain word) (rest : List Char) :
    splitConsole .gap (word ++ rest) = splitConsole (.word word .none) rest := by
  obtain ⟨hne, hall⟩ := hword
  cases word with
  | nil => exact absurd rfl hne
  | cons c word =>
      obtain ⟨hblank, hspecial⟩ := hall c List.mem_cons_self
      have hrest := splitConsole_word (fun x hx => hall x (List.mem_cons_of_mem _ hx)) [c] rest
      simp [splitConsole, hblank, advance_plain hspecial, hrest]

/-- Plain words are split as they were joined. -/
theorem splitConsole_joined {words : List (List Char)} (h : ∀ word ∈ words, Plain word) :
    splitConsole .gap (joined words) = words := by
  induction words with
  | nil => rfl
  | cons word words ih =>
      have hword := h word List.mem_cons_self
      cases words with
      | nil =>
          have hone := splitConsole_gap hword []
          rw [List.append_nil] at hone
          exact hone
      | cons next words =>
          have hrest := ih fun w hw => h w (List.mem_cons_of_mem _ hw)
          show splitConsole .gap (word ++ ' ' :: joined (next :: words)) = _
          rw [splitConsole_gap hword]
          show word :: splitConsole .gap (joined (next :: words)) = _
          rw [hrest]

/-! ## Machine words -/

/-- Where a splitting stands: between words, in a bare word, in a C string, behind its
backslash, in an octal escape that may go on, or behind its closing quote. -/
inductive Machine where
  | gap
  | bare (taken : List Char)
  | quoted (taken : List Char)
  | escape (taken : List Char)
  | octal (taken : List Char) (value more : Nat)
  | closed

/-- The value of an octal digit. -/
def octalDigit (c : Char) : Option Nat :=
  if '0' ≤ c ∧ c ≤ '7' then some (c.toNat - '0'.toNat) else none

/-- The character an escape stands for. -/
def escaped (c : Char) : Char :=
  match c with
  | 'a' => '\x07'
  | 'b' => '\x08'
  | 'f' => '\x0c'
  | 'n' => '\n'
  | 'r' => '\r'
  | 't' => '\t'
  | 'v' => '\x0b'
  | c => c

/-- Split what is left of a line, if its C strings are well formed. -/
def splitMachine : Machine → List Char → Option (List (List Char))
  | .gap, [] | .closed, [] => some []
  | .gap, c :: line =>
      if isBlank c then splitMachine .gap line
      else if c = '"' then splitMachine (.quoted []) line
      else splitMachine (.bare [c]) line
  | .bare taken, [] => some [taken]
  | .bare taken, c :: line =>
      if isBlank c then (splitMachine .gap line).map (taken :: ·)
      else splitMachine (.bare (taken ++ [c])) line
  | .quoted _, [] | .escape _, [] | .octal .., [] => none
  | .quoted taken, c :: line =>
      if c = '"' then (splitMachine .closed line).map (taken :: ·)
      else if c = '\\' then splitMachine (.escape taken) line
      else splitMachine (.quoted (taken ++ [c])) line
  | .escape taken, c :: line =>
      match octalDigit c with
      | some d => splitMachine (.octal taken d 2) line
      | none => splitMachine (.quoted (taken ++ [escaped c])) line
  | .octal taken value more, c :: line =>
      match octalDigit c, more with
      | some d, more + 1 => splitMachine (.octal taken (8 * value + d) more) line
      | _, _ =>
          if c = '"' then
            (splitMachine .closed line).map ((taken ++ [Char.ofNat value]) :: ·)
          else if c = '\\' then splitMachine (.escape (taken ++ [Char.ofNat value])) line
          else splitMachine (.quoted (taken ++ [Char.ofNat value, c])) line
  | .closed, c :: line => if isBlank c then splitMachine .gap line else none

/-- The words of a line. -/
def splitWords (line : List Char) : Option (List (List Char)) := splitMachine .gap line

/-- The room the words may take from a state on. -/
def Machine.room : Machine → List Char → Nat
  | .gap, line => line.length + 1
  | .bare taken, line => taken.length + line.length + 1
  | .quoted taken, line | .escape taken, line => taken.length + line.length
  | .octal taken .., line => taken.length + line.length + 1
  | .closed, line => line.length

/-- The words of a line take no more room than the line. -/
theorem splitMachine_size_le {line : List Char} {state : Machine} {words : List (List Char)}
    (h : splitMachine state line = some words) : size words ≤ state.room line := by
  induction line generalizing state words with
  | nil =>
      cases state <;> simp [splitMachine, Machine.room] at h ⊢ <;> subst h <;> simp
  | cons c line ih =>
      -- a word that ends here, and the rest of the line
      have hends : ∀ {state word}, (splitMachine state line).map (word :: ·) = some words →
          size words ≤ word.length + 1 + state.room line := by
        intro state word hmap
        obtain ⟨rest, hrest, rfl⟩ := Option.map_eq_some_iff.mp hmap
        simpa using ih hrest
      cases state with
      | gap =>
          rw [splitMachine] at h
          split at h
          · exact Nat.le_trans (ih h) (by simp [Machine.room])
          · split at h
            · exact Nat.le_trans (ih h) (by simp [Machine.room]; omega)
            · exact Nat.le_trans (ih h) (by simp [Machine.room]; omega)
      | bare taken =>
          rw [splitMachine] at h
          split at h
          · exact Nat.le_trans (hends h) (by simp [Machine.room]; omega)
          · exact Nat.le_trans (ih h) (by simp [Machine.room]; omega)
      | quoted taken =>
          rw [splitMachine] at h
          split at h
          · exact Nat.le_trans (hends h) (by simp [Machine.room]; omega)
          · split at h
            · exact Nat.le_trans (ih h) (by simp [Machine.room])
            · exact Nat.le_trans (ih h) (by simp [Machine.room]; omega)
      | escape taken =>
          rw [splitMachine] at h
          split at h
          · exact Nat.le_trans (ih h) (by simp [Machine.room, Nat.add_assoc])
          · exact Nat.le_trans (ih h) (by simp [Machine.room]; omega)
      | octal taken value more =>
          unfold splitMachine at h
          split at h
          · exact Nat.le_trans (ih h) (by simp [Machine.room])
          · split at h
            · exact Nat.le_trans (hends h) (by simp [Machine.room]; omega)
            · split at h
              · exact Nat.le_trans (ih h) (by simp [Machine.room]; omega)
              · exact Nat.le_trans (ih h) (by simp [Machine.room]; omega)
      | closed =>
          rw [splitMachine] at h
          split at h
          · exact Nat.le_trans (ih h) (by simp [Machine.room])
          · cases h

/-- A C string whose text has an escape is shorter than its text. -/
theorem quoted_size_lt {text taken : List Char} {words : List (List Char)}
    (hescape : '\\' ∈ text) (hquote : '"' ∉ text)
    (h : splitMachine (.quoted taken) (text ++ ['"']) = some words) :
    size words ≤ taken.length + text.length := by
  induction text generalizing taken with
  | nil => cases hescape
  | cons c text ih =>
      have hc : c ≠ '"' := fun heq => hquote (heq ▸ List.mem_cons_self)
      rw [List.cons_append, splitMachine, if_neg hc] at h
      split at h
      · have hle := splitMachine_size_le h
        simp [Machine.room] at hle ⊢
        omega
      · rename_i hplain
        have hrest : '\\' ∈ text := (List.mem_cons.mp hescape).resolve_left (Ne.symm hplain)
        have hle := ih hrest (fun hmem => hquote (List.mem_cons_of_mem _ hmem)) h
        simp at hle ⊢
        omega

/-- The text of a C string without an escape is the word. -/
theorem splitMachine_quoted {text : List Char} (hescape : '\\' ∉ text) (hquote : '"' ∉ text)
    (taken : List Char) :
    splitMachine (.quoted taken) (text ++ ['"']) = some [taken ++ text] := by
  induction text generalizing taken with
  | nil => simp [splitMachine]
  | cons c text ih =>
      have hc : c ≠ '"' := fun heq => hquote (heq ▸ List.mem_cons_self)
      have hc' : c ≠ '\\' := fun heq => hescape (heq ▸ List.mem_cons_self)
      have hrest := ih (fun hmem => hescape (List.mem_cons_of_mem _ hmem))
        (fun hmem => hquote (List.mem_cons_of_mem _ hmem)) (taken ++ [c])
      simp [splitMachine, hc, hc', hrest]

/-- The characters of a word without blanks are taken one after the other. -/
theorem splitMachine_bare {word : List Char} (hword : ∀ c ∈ word, isBlank c = false)
    (taken rest : List Char) :
    splitMachine (.bare taken) (word ++ rest) = splitMachine (.bare (taken ++ word)) rest := by
  induction word generalizing taken with
  | nil => simp
  | cons c word ih =>
      have hblank := hword c List.mem_cons_self
      have hrest := ih (fun x hx => hword x (List.mem_cons_of_mem _ hx)) (taken ++ [c])
      simp [splitMachine, hblank, hrest]

/-- A plain word is found from a gap. -/
theorem splitMachine_gap {word : List Char} (hword : Plain word) (rest : List Char) :
    splitMachine .gap (word ++ rest) = splitMachine (.bare word) rest := by
  obtain ⟨hne, hall⟩ := hword
  cases word with
  | nil => exact absurd rfl hne
  | cons c word =>
      obtain ⟨hblank, hspecial⟩ := hall c List.mem_cons_self
      have hquote : c ≠ '"' := fun heq => by
        subst heq
        cases hspecial
      have hrest := splitMachine_bare (fun x hx => (hall x (List.mem_cons_of_mem _ hx)).1) [c] rest
      simp [splitMachine, hblank, hquote, hrest]

/-- Plain words are split as they were joined. -/
theorem splitWords_joined {words : List (List Char)} (h : ∀ word ∈ words, Plain word) :
    splitWords (joined words) = some words := by
  unfold splitWords
  induction words with
  | nil => rfl
  | cons word words ih =>
      have hword := h word List.mem_cons_self
      cases words with
      | nil =>
          have hone := splitMachine_gap hword []
          rw [List.append_nil] at hone
          exact hone
      | cons next words =>
          have hrest := ih fun w hw => h w (List.mem_cons_of_mem _ hw)
          show splitMachine .gap (word ++ ' ' :: joined (next :: words)) = _
          rw [splitMachine_gap hword]
          show (splitMachine .gap (joined (next :: words))).map (word :: ·) = _
          rw [hrest]
          rfl

/-! ## Kernel words -/

/-- Split, with the word that has begun. -/
def splitKernel (quoted : Bool) (taken : List Char) : List Char → List (List Char)
  | [] => if taken = [] then [] else [taken]
  | c :: rest =>
      if isBlank c = true ∧ quoted = false then
        (if taken = [] then [] else [taken]) ++ splitKernel false [] rest
      else splitKernel (quoted ^^ decide (c = '"')) (taken ++ [c]) rest

/-- A word from somewhere in it on: no blank splits it, and its quotes are closed. -/
def Closed : Bool → List Char → Prop
  | quoted, [] => quoted = false
  | quoted, c :: rest =>
      (isBlank c = true → quoted = true) ∧ Closed (quoted ^^ decide (c = '"')) rest

theorem splitKernel_word {word : List Char} {quoted : Bool} (h : Closed quoted word)
    (taken rest : List Char) :
    splitKernel quoted taken (word ++ rest) = splitKernel false (taken ++ word) rest := by
  induction word generalizing quoted taken with
  | nil =>
      rw [Closed] at h
      simp [h]
  | cons c word ih =>
      obtain ⟨hblank, hword⟩ := h
      have hsplit : ¬ (isBlank c = true ∧ quoted = false) := fun hc => by
        rw [hblank hc.1] at hc
        cases hc.2
      rw [List.cons_append, splitKernel, if_neg hsplit, ih hword]
      simp

/-- Closed words are split as they were joined. -/
theorem splitKernel_joined {words : List (List Char)}
    (h : ∀ word ∈ words, word ≠ [] ∧ Closed false word) :
    splitKernel false [] (joined words) = words := by
  induction words with
  | nil => rfl
  | cons word words ih =>
      obtain ⟨hne, hclosed⟩ := h word List.mem_cons_self
      cases words with
      | nil =>
          have hone := splitKernel_word hclosed [] []
          rw [List.append_nil] at hone
          rw [joined, hone, splitKernel]
          simp [hne]
      | cons next words =>
          have hrest := ih fun w hw => h w (List.mem_cons_of_mem _ hw)
          have hgap : isBlank ' ' = true ∧ false = false := ⟨rfl, rfl⟩
          rw [joined, splitKernel_word hclosed, splitKernel, if_pos hgap, hrest]
          simp [hne]

/-- In front of a word may stand what has no blank and no quote. -/
theorem closed_append {plain : List Char} (h : ∀ c ∈ plain, isBlank c = false ∧ c ≠ '"')
    {rest : List Char} (hrest : Closed false rest) : Closed false (plain ++ rest) := by
  induction plain with
  | nil => exact hrest
  | cons c plain ih =>
      obtain ⟨⟨hblank, hquote⟩, hplain⟩ := List.forall_mem_cons.mp h
      refine ⟨fun hc => absurd hc (by simp [hblank]), ?_⟩
      rw [decide_eq_false hquote]
      exact ih hplain

/-- Anything else that is quoted closes at the next quote. -/
theorem closed_quoted {text : List Char} (h : '"' ∉ text) : Closed true (text ++ ['"']) := by
  induction text with
  | nil => exact ⟨fun _ => rfl, rfl⟩
  | cons c text ih =>
      rw [List.mem_cons, not_or] at h
      refine ⟨fun _ => rfl, ?_⟩
      rw [decide_eq_false (Ne.symm h.1)]
      exact ih h.2

end CommandLine

import Mathlib.Data.Bool.AllAny
import Kdive.Lib.CommandLine
import Kdive.GdbMi.Commands

/-!
# How gdb reads the commands

`parse` is how gdb reads a line of MI input.  The verb goes up to the first blank.
The rest is split into machine words, except for `file-exec-and-symbols`, which hands
the rest of the line to the console.  `interpreter-exec console` hands its one word to
the console, which splits it once more.  A word that begins with a dash is an option.

A line is intact for a command if it has no control character and reads as that command.
-/

namespace Kdive.GdbMi

open CommandLine

/-- A C0 or C1 control character. -/
def isControl (c : Char) : Bool := c.toNat < 0x20 || (0x7f ≤ c.toNat && c.toNat ≤ 0x9f)

/-- An argument as gdb takes it. -/
inductive Arg where
  | option (flag : Text)
  | operand (text : Text)
deriving DecidableEq

/-- A word as an argument. -/
def toArg (word : Text) : Arg :=
  if word.head? = some '-' then .option word else .operand word

/-- The word of an argument. -/
def Arg.word : Arg → Text
  | .option word | .operand word => word

/-- A command as gdb understands it. -/
inductive Command where
  | machine (verb : Text) (args : List Arg)
  | console (verb : Text) (args : List Arg)
deriving DecidableEq

/-- A console command from its words. -/
def consoleCommand : List Text → Option Command
  | [] => none
  | verb :: words => some (.console verb (words.map toArg))

/-- A machine command from its verb and the rest of the line. -/
def machineCommand (verb tail : Text) : Option Command :=
  if verb = "file-exec-and-symbols".toList then
    some (.console verb ((splitConsole .gap tail).map toArg))
  else if verb = "interpreter-exec".toList then
    match splitWords tail with
    | some [interpreter, command] =>
        if interpreter = "console".toList then consoleCommand (splitConsole .gap command)
        else none
    | _ => none
  else (splitWords tail).map fun words => .machine verb (words.map toArg)

/-- How gdb reads a line of MI input. -/
def parse : Text → Option Command
  | '-' :: line =>
      machineCommand (line.takeWhile (!isBlank ·)) (line.dropWhile (!isBlank ·))
  | _ => none

/-- A line without control characters that reads as the command. -/
def Intact (line : Text) (command : Command) : Prop :=
  (∀ c ∈ line, isControl c = false) ∧ parse line = some command

instance (line : Text) (command : Command) : Decidable (Intact line command) :=
  decidable_of_iff ((line.all fun c => isControl c = false) = true ∧ parse line = some command)
    (by simp [Intact])

/-! ## The commands that are meant -/

/-- `&symbol` or `symbol`, to be evaluated. -/
def evaluate (expression : Text) : Command :=
  .machine "data-evaluate-expression".toList [.operand expression]

/-- The sections other than `.text`, as arguments. -/
def Sections.args (sections : Sections) : List Arg :=
  sections.others.flatMap fun section_ =>
    [.option "-s".toList, .operand section_, .operand (sections.address section_)]

/-- The commands a call stands for. -/
def intended : Request → List Command
  | .resolveSymbol symbol => [evaluate ('&' :: symbol)]
  | .readSymbol symbol => [evaluate symbol]
  | .evaluateInspector inspector symbol =>
      if inspector = "kernel_version".toList then [evaluate CANONICAL_PROBE_SYMBOL]
      else [evaluate ('&' :: symbol.getD [])]
  | .setBreakpoint location =>
      [.machine "break-insert".toList [.option "-h".toList, .operand location]]
  | .setWatchpoint expression => [.machine "break-watch".toList [.operand expression]]
  | .clearBreakpoint number => [.machine "break-delete".toList [.operand number]]
  | .readMemory address byteCount =>
      [.machine "data-read-memory-bytes".toList
        [.operand (hexText address.toNat), .operand (decimalText byteCount.toNat)]]
  | .readRegisters _ =>
      [.machine "data-list-register-names".toList [],
        .machine "data-list-register-values".toList [.operand "x".toList]]
  | .loadModuleSymbols _ ko sections =>
      [.console "add-symbol-file".toList
        (.operand ko.text :: .operand (sections.address MODULE_TEXT_SECTION) :: sections.args)]
  | .loadVmlinux path => [.console "file-exec-and-symbols".toList [.operand path.text]]

/-! ## Reading a line -/

theorem toArg_of_head {word : Text} (h : word.head? ≠ some '-') : toArg word = .operand word :=
  if_neg h

@[simp] theorem word_toArg (word : Text) : (toArg word).word = word := by
  unfold toArg
  split <;> rfl

/-- Arguments give their words back. -/
theorem words_of_toArg {words : List Text} {args : List Arg} (h : words.map toArg = args) :
    words = args.map Arg.word := by
  subst h
  simp [Function.comp_def]

/-- A verb before a blank is read as the verb. -/
theorem parse_verb {verb : Text} (hverb : ∀ c ∈ verb, isBlank c = false) (tail : Text) :
    parse ('-' :: (verb ++ ' ' :: tail)) = machineCommand verb (' ' :: tail) := by
  have hall : ∀ c ∈ verb, (!isBlank c) = true := fun c hc => by simp [hverb c hc]
  have htake : (verb ++ ' ' :: tail).takeWhile (!isBlank ·) = verb := by
    rw [List.takeWhile_append_of_pos hall]
    simp [isBlank]
  have hdrop : (verb ++ ' ' :: tail).dropWhile (!isBlank ·) = ' ' :: tail := by
    rw [List.dropWhile_append_of_pos hall]
    simp [isBlank]
  show machineCommand _ _ = _
  rw [htake, hdrop]

theorem splitWords_blank (tail : Text) : splitWords (' ' :: tail) = splitWords tail := rfl

/-- A verb and plain words are read as they were written. -/
theorem parse_machine {verb : Text} {words : List Text} (hverb : ∀ c ∈ verb, isBlank c = false)
    (hfile : verb ≠ "file-exec-and-symbols".toList) (hconsole : verb ≠ "interpreter-exec".toList)
    (hwords : ∀ word ∈ words, Plain word) :
    parse ('-' :: (verb ++ ' ' :: joined words)) = some (.machine verb (words.map toArg)) := by
  rw [parse_verb hverb, machineCommand, if_neg hfile, if_neg hconsole, splitWords_blank,
    splitWords_joined hwords]
  rfl

/-- A verb and one C string without escapes are read as they were written. -/
theorem parse_evaluate {expression : Text} (hescape : '\\' ∉ expression)
    (hquote : '"' ∉ expression) (hdash : expression.head? ≠ some '-') :
    parse (evaluateLine expression) = some (evaluate expression) := by
  have hline : evaluateLine expression =
      '-' :: ("data-evaluate-expression".toList ++ ' ' :: '"' :: (expression ++ ['"'])) := rfl
  have hsplit : splitWords (' ' :: '"' :: (expression ++ ['"'])) = some [expression] :=
    splitMachine_quoted hescape hquote []
  rw [hline, parse_verb (List.all_iff_forall_prop.mp (by decide)), machineCommand, if_neg (by decide), if_neg (by decide),
    hsplit]
  show some (Command.machine _ [toArg expression]) = _
  rw [toArg_of_head hdash]
  rfl

/-! ## Texts that no splitting and no option looks into -/

/-- A word that stays as it is wherever it is written. -/
structure Bare (text : Text) : Prop where
  plain : Plain text
  printable : ∀ c ∈ text, isControl c = false
  operand : text.head? ≠ some '-'

/-- A letter, a digit, an underscore or a dot. -/
def isNameChar (c : Char) : Bool := isWord c || c = '.'

theorem nameChar_bounds {c : Char} (h : isNameChar c = true) :
    (48 ≤ c.toNat ∧ c.toNat ≤ 57) ∨ (65 ≤ c.toNat ∧ c.toNat ≤ 90) ∨ c.toNat = 95 ∨
      (97 ≤ c.toNat ∧ c.toNat ≤ 122) ∨ c.toNat = 46 := by
  have hle : ∀ a b : Char, a ≤ b ↔ a.toNat ≤ b.toNat := fun a b => Iff.rfl
  simp only [isNameChar, isWord, isLetter, isDigit, Bool.or_eq_true, Bool.and_eq_true,
    decide_eq_true_eq, hle] at h
  rcases h with ((h | h) | h) | h
  · rcases h with h | h
    · exact .inr (.inr (.inr (.inl h)))
    · exact .inr (.inl h)
  · exact .inl h
  · exact .inr (.inr (.inl (by rw [h]; rfl)))
  · exact .inr (.inr (.inr (.inr (by rw [h]; rfl))))

/-- A text of such characters is bare. -/
theorem Bare.of_all {text : Text} (hne : text ≠ []) (h : ∀ c ∈ text, isNameChar c = true) :
    Bare text := by
  have hnot : ∀ c ∈ text, ∀ x : Char, isNameChar x = false → c ≠ x := fun c hc x hx heq => by
    subst heq
    rw [h c hc] at hx
    cases hx
  constructor
  · refine ⟨hne, fun c hc => ⟨?_, ?_⟩⟩
    · simp [isBlank, hnot c hc _ (by decide : isNameChar ' ' = false),
        hnot c hc _ (by decide : isNameChar '\t' = false),
        hnot c hc _ (by decide : isNameChar '\n' = false),
        hnot c hc _ (by decide : isNameChar '\x0b' = false),
        hnot c hc _ (by decide : isNameChar '\x0c' = false),
        hnot c hc _ (by decide : isNameChar '\r' = false)]
    · simp [isSpecial, hnot c hc _ (by decide : isNameChar '"' = false),
        hnot c hc _ (by decide : isNameChar '\'' = false),
        hnot c hc _ (by decide : isNameChar '\\' = false)]
  · intro c hc
    have := nameChar_bounds (h c hc)
    simp [isControl]
    omega
  · cases text with
    | nil => exact absurd rfl hne
    | cons c text =>
        intro heq
        exact hnot c List.mem_cons_self '-' (by decide) (Option.some.inj heq)

theorem isNameChar_of_isWord {c : Char} (h : isWord c = true) : isNameChar c = true := by
  simp [isNameChar, h]

theorem isWord_of_isHexDigit {c : Char} (h : isHexDigit c = true) : isWord c = true := by
  have hle : ∀ a b : Char, a ≤ b ↔ a.toNat ≤ b.toNat := fun a b => Iff.rfl
  simp only [isHexDigit, isWord, isLetter, isDigit, Bool.or_eq_true, Bool.and_eq_true,
    decide_eq_true_eq, hle] at h ⊢
  rcases h with (h | ⟨h, h'⟩) | ⟨h, h'⟩
  · exact .inl (.inr h)
  · exact .inl (.inl (.inl ⟨h, Nat.le_trans h' (by decide)⟩))
  · exact .inl (.inl (.inr ⟨h, Nat.le_trans h' (by decide)⟩))

theorem Bare.of_symbolName {text : Text} (h : isSymbolName text = true) : Bare text := by
  cases text with
  | nil => cases h
  | cons c rest =>
      simp [isSymbolName] at h
      obtain ⟨hfirst, hrest⟩ := h
      refine .of_all (List.cons_ne_nil _ _) fun x hx => ?_
      cases List.mem_cons.mp hx with
      | inl heq =>
          subst heq
          rcases hfirst with hletter | rfl
          · simp [isNameChar, isWord, hletter]
          · rfl
      | inr hx => exact isNameChar_of_isWord (hrest x hx)

theorem Bare.of_breakId {text : Text} (h : isBreakId text = true) : Bare text := by
  simp [isBreakId] at h
  exact .of_all h.1 fun c hc => by simp [isNameChar, isWord, h.2 c hc]

theorem Bare.of_hexAddress {text : Text} (h : isHexAddress text = true) : Bare text := by
  unfold isHexAddress at h
  split at h
  · rename_i rest
    simp at h
    refine .of_all (List.cons_ne_nil _ _) fun c hc => ?_
    simp at hc
    rcases hc with rfl | rfl | hc
    · rfl
    · rfl
    · exact isNameChar_of_isWord (isWord_of_isHexDigit (h.2 c hc))
  · cases h

theorem Bare.of_sectionName {text : Text} (h : isSectionName text = true) : Bare text := by
  unfold isSectionName at h
  split at h
  · rename_i rest
    simp at h
    refine .of_all (List.cons_ne_nil _ _) fun c hc => ?_
    simp at hc
    rcases hc with rfl | hc
    · rfl
    · simpa [isNameChar] using h.2 c hc
  · cases h

/-- The digits of a number to a base up to 16. -/
theorem isHexDigit_toDigits {base : Nat} (hpos : 0 < base) (hbase : base ≤ 16) (n : Nat) :
    ∀ c ∈ Nat.toDigits base n, isHexDigit c = true := by
  have hdigit : ∀ d < 16, isHexDigit (Nat.digitChar d) = true := by decide
  have hcore : ∀ fuel n taken, (∀ c ∈ taken, isHexDigit c = true) →
      ∀ c ∈ Nat.toDigitsCore base fuel n taken, isHexDigit c = true := by
    intro fuel
    induction fuel with
    | zero => exact fun n taken htaken => htaken
    | succ fuel ih =>
        intro n taken htaken c hc
        have hmore : ∀ c ∈ Nat.digitChar (n % base) :: taken, isHexDigit c = true := by
          intro x hx
          cases List.mem_cons.mp hx with
          | inl heq =>
              rw [heq]
              exact hdigit _ (Nat.lt_of_lt_of_le (Nat.mod_lt _ hpos) hbase)
          | inr hx => exact htaken x hx
        rw [Nat.toDigitsCore] at hc
        split at hc
        · exact hmore c hc
        · exact ih _ _ hmore c hc
  exact hcore _ _ _ (fun c hc => by cases hc)

theorem bare_hexText (n : Nat) : Bare (hexText n) := by
  refine .of_all (List.cons_ne_nil _ _) fun c hc => ?_
  simp [hexText] at hc
  rcases hc with rfl | rfl | hc
  · rfl
  · rfl
  · exact isNameChar_of_isWord
      (isWord_of_isHexDigit (isHexDigit_toDigits (by decide) (by decide) n c hc))

theorem bare_decimalText (n : Nat) : Bare (decimalText n) :=
  .of_all Nat.toDigits_ne_nil fun c hc => isNameChar_of_isWord
    (isWord_of_isHexDigit (isHexDigit_toDigits (by decide) (by decide) n c hc))

end Kdive.GdbMi

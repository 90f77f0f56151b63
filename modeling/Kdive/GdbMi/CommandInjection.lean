import Kdive.Lib.Association
import Kdive.GdbMi.CommandParse

/-!
# Commands that cannot be broken out of

Which calls write lines that are intact for the commands they stand for
(`commands_intact_iff`).  Numbers always are.  A name is unless it ends in a newline,
which its check lets through.  The path of a module object goes through two splittings
unescaped: a backslash, a single quote, a control character or a leading dash is read
as something else.  The path of `vmlinux` is escaped but for quotes.
-/

namespace Kdive.GdbMi

open CommandLine

/-! ## Names -/

/-- A text that matches and does not end in a newline matches as a whole. -/
theorem matches_of {pattern : Text → Bool} {text : Text} (h : matchesLine pattern text = true)
    (hend : text.getLast? ≠ some '\n') : pattern text = true := by
  simpa [matchesLine, hend] using h

/-- A line with a newline is intact for nothing. -/
theorem newline_not_intact {line : Text} (h : '\n' ∈ line) (command : Command) :
    ¬Intact line command := fun hintact => by
  have hcontrol := hintact.1 '\n' h
  revert hcontrol
  decide

/-- A name is written intact unless it ends in a newline. -/
theorem name_intact_iff {pattern : Text → Bool} {text line : Text} {command : Command}
    (hmatch : matchesLine pattern text = true) (hmem : ∀ c ∈ text, c ∈ line)
    (hintact : pattern text = true → Intact line command) :
    Intact line command ↔ text.getLast? ≠ some '\n' :=
  ⟨fun h hend => newline_not_intact (hmem _ (List.mem_of_getLast? hend)) command h,
    fun hend => hintact (matches_of hmatch hend)⟩

/-- Words are joined by blanks. -/
theorem joined_cons (word : Text) (words : List Text) :
    joined (word :: words) = word ++ words.flatMap (' ' :: ·) := by
  induction words generalizing word with
  | nil => simp [joined]
  | cons next words ih => simp [joined, ih]

theorem mem_joined {words : List Text} {c : Char} (h : c ∈ joined words) :
    c = ' ' ∨ ∃ word ∈ words, c ∈ word := by
  cases words with
  | nil => cases h
  | cons word words =>
      rw [joined_cons] at h
      simp at h
      rcases h with h | ⟨next, hnext, rfl | h⟩
      · exact .inr ⟨word, List.mem_cons_self, h⟩
      · exact .inl rfl
      · exact .inr ⟨next, List.mem_cons_of_mem _ hnext, h⟩

/-- A verb and plain words are intact. -/
theorem machine_intact {verb : Text} {words : List Text} {args : List Arg}
    (hverb : ∀ c ∈ verb, isBlank c = false ∧ isControl c = false)
    (hfile : verb ≠ "file-exec-and-symbols".toList) (hconsole : verb ≠ "interpreter-exec".toList)
    (hwords : ∀ word ∈ words, Plain word ∧ ∀ c ∈ word, isControl c = false)
    (hargs : words.map toArg = args) :
    Intact ('-' :: (verb ++ ' ' :: joined words)) (.machine verb args) := by
  constructor
  · intro c hc
    simp at hc
    rcases hc with rfl | hc | rfl | hc
    · rfl
    · exact (hverb c hc).2
    · rfl
    · rcases mem_joined hc with rfl | ⟨word, hword, hc⟩
      · rfl
      · exact (hwords word hword).2 c hc
  · rw [parse_machine (fun c hc => (hverb c hc).1) hfile hconsole fun w hw => (hwords w hw).1,
      hargs]

theorem Bare.toArg {text : Text} (h : Bare text) : toArg text = .operand text :=
  toArg_of_head h.operand

theorem Bare.no_special {text : Text} (h : Bare text) {c : Char} (hc : isSpecial c = true) :
    c ∉ text := fun hmem => by
  rw [(h.plain.2 c hmem).2] at hc
  cases hc

/-- A bare expression, or the address of one, is evaluated as it is. -/
theorem evaluate_intact {expression : Text} (h : Bare expression) :
    Intact (evaluateLine expression) (evaluate expression) := by
  refine ⟨fun c hc => ?_, parse_evaluate (h.no_special rfl) (h.no_special rfl) h.operand⟩
  have hline : evaluateLine expression =
      "-data-evaluate-expression \"".toList ++ (expression ++ ['"']) := rfl
  have hall : ∀ c ∈ "-data-evaluate-expression \"".toList, isControl c = false :=
    List.all_iff_forall_prop.mp (by decide)
  rw [hline, List.mem_append, List.mem_append] at hc
  rcases hc with hc | hc | hc
  · exact hall c hc
  · exact h.printable c hc
  · cases List.mem_singleton.mp hc
    rfl

/-- The address of a bare name is bare. -/
theorem Bare.address {text : Text} (h : Bare text) : Bare ('&' :: text) := by
  obtain ⟨⟨hne, hplain⟩, hprintable, _⟩ := h
  constructor
  · refine ⟨List.cons_ne_nil _ _, fun c hc => ?_⟩
    cases List.mem_cons.mp hc with
    | inl heq =>
        rw [heq]
        decide
    | inr hc => exact hplain c hc
  · intro c hc
    cases List.mem_cons.mp hc with
    | inl heq =>
        rw [heq]
        decide
    | inr hc => exact hprintable c hc
  · simp

theorem mem_evaluateLine {expression : Text} {c : Char} (h : c ∈ expression) :
    c ∈ evaluateLine expression :=
  List.mem_append_left _ (List.mem_append_right _ h)

/-! ## The path of `vmlinux` -/

theorem escapePath_cons (c : Char) (text : Text) :
    escapePath (c :: text) =
      (if c = '\\' then ['\\', '\\'] else if c = ' ' then ['\\', ' '] else [c]) ++
        escapePath text := rfl

/-- An escaped character is taken. -/
theorem splitConsole_escaped (taken : Text) (quote : Quote) (c : Char) (line : Text) :
    splitConsole (.word taken quote) ('\\' :: c :: line) =
      splitConsole (.word (taken ++ [c]) quote) line := by
  simp [splitConsole, isBlank, advance]

/-- An escaped path without quotes is one word. -/
theorem splitConsole_escapePath {text : Text}
    (h : ∀ c ∈ text, isControl c = false ∧ c ≠ '"' ∧ c ≠ '\'') (taken : Text) :
    splitConsole (.word taken .none) (escapePath text) = [taken ++ text] := by
  induction text generalizing taken with
  | nil => simp [escapePath, splitConsole]
  | cons c text ih =>
      obtain ⟨hcontrol, hdouble, hsingle⟩ := h c List.mem_cons_self
      have hrest := ih (fun x hx => h x (List.mem_cons_of_mem _ hx)) (taken ++ [c])
      rw [List.append_assoc] at hrest
      rw [escapePath_cons]
      split
      · rename_i hc
        subst hc
        exact (splitConsole_escaped ..).trans hrest
      · split
        · rename_i hc
          subst hc
          exact (splitConsole_escaped ..).trans hrest
        · rename_i hslash hspace
          have hblank : isBlank c = false := by
            cases hb : isBlank c with
            | false => rfl
            | true =>
                simp [isBlank] at hb
                rcases hb with ((((rfl | rfl) | rfl) | rfl) | rfl) | rfl
                · exact absurd rfl hspace
                all_goals cases hcontrol
          have hspecial : isSpecial c = false := by simp [isSpecial, hdouble, hsingle, hslash]
          refine Eq.trans ?_ hrest
          simp [splitConsole, hblank, advance_plain hspecial]

/-- The words of an escaped path take no more room than the path. -/
theorem escapePath_size_le (text : Text) :
    size (splitConsole .gap (escapePath text)) ≤ text.length + 1 ∧
      ∀ taken quote, size (splitConsole (.word taken quote) (escapePath text)) ≤
        taken.length + text.length + 1 := by
  induction text with
  | nil => simp [escapePath, splitConsole]
  | cons c text ih =>
      obtain ⟨hgap, hword⟩ := ih
      have hescaped : ∀ taken quote, size (splitConsole (.word taken quote)
          ('\\' :: c :: escapePath text)) ≤ taken.length + (text.length + 1) + 1 := by
        intro taken quote
        have := hword (taken ++ [c]) quote
        rw [splitConsole_escaped]
        simp at this
        omega
      have hstart : splitConsole .gap ('\\' :: c :: escapePath text) =
          splitConsole (.word [] .none) ('\\' :: c :: escapePath text) := by
        simp [splitConsole, isBlank]
      have hplain : c ≠ '\\' → ∀ taken quote, size (splitConsole (advance taken quote c)
          (escapePath text)) ≤ taken.length + text.length + 2 := by
        intro hc taken quote
        unfold advance
        rw [if_neg hc]
        have hkept := hword (taken ++ [c])
        have hdropped := hword taken
        simp at hkept
        split <;> split <;> (try split) <;> first
          | exact Nat.le_trans (hdropped _) (by omega)
          | exact Nat.le_trans (hkept _) (by omega)
      rw [escapePath_cons]
      split
      · rename_i hc
        subst hc
        refine ⟨?_, fun taken quote => hescaped taken quote⟩
        show size (splitConsole .gap ('\\' :: '\\' :: escapePath text)) ≤ _
        rw [hstart]
        simpa using hescaped [] .none
      · split
        · rename_i hc
          subst hc
          refine ⟨?_, fun taken quote => hescaped taken quote⟩
          show size (splitConsole .gap ('\\' :: ' ' :: escapePath text)) ≤ _
          rw [hstart]
          simpa using hescaped [] .none
        · rename_i hslash _
          constructor
          · have hone := hplain hslash [] .none
            simp [splitConsole] at hone ⊢
            split <;> omega
          · intro taken quote
            have hone := hplain hslash taken quote
            simp [splitConsole] at hone ⊢
            split
            · simp
              omega
            · omega

/-- The words of an escaped path with a quote take less room. -/
theorem escapePath_size_lt {text : Text} (h : ∃ c ∈ text, c = '"' ∨ c = '\'') :
    size (splitConsole .gap (escapePath text)) ≤ text.length ∧
      ∀ taken, size (splitConsole (.word taken .none) (escapePath text)) ≤
        taken.length + text.length := by
  induction text with
  | nil => simp at h
  | cons c text ih =>
      have hword := (escapePath_size_le text).2
      by_cases hc : c = '"' ∨ c = '\''
      · have hstart : ∀ taken, size (splitConsole (.word taken .none) (escapePath (c :: text))) ≤
            taken.length + (text.length + 1) := by
          intro taken
          have hdouble := hword taken .double
          have hsingle := hword taken .single
          rcases hc with rfl | rfl <;>
            simp [escapePath_cons, splitConsole, isBlank, advance] <;> omega
        refine ⟨?_, hstart⟩
        have hgap : splitConsole .gap (escapePath (c :: text)) =
            splitConsole (.word [] .none) (escapePath (c :: text)) := by
          rcases hc with rfl | rfl <;> simp [escapePath_cons, splitConsole, isBlank]
        rw [hgap]
        simpa using hstart []
      · have hrest : ∃ c ∈ text, c = '"' ∨ c = '\'' := by
          obtain ⟨x, hx, hquote⟩ := h
          cases List.mem_cons.mp hx with
          | inl heq => exact absurd (heq ▸ hquote) hc
          | inr hx => exact ⟨x, hx, hquote⟩
        obtain ⟨hgap, hmore⟩ := ih hrest
        have hescaped : ∀ taken, size (splitConsole (.word taken .none)
            ('\\' :: c :: escapePath text)) ≤ taken.length + (text.length + 1) := by
          intro taken
          have := hmore (taken ++ [c])
          rw [splitConsole_escaped]
          simp at this
          omega
        have hstart : splitConsole .gap ('\\' :: c :: escapePath text) =
            splitConsole (.word [] .none) ('\\' :: c :: escapePath text) := by
          simp [splitConsole, isBlank]
        rw [escapePath_cons]
        split
        · rename_i heq
          subst heq
          refine ⟨?_, hescaped⟩
          show size (splitConsole .gap ('\\' :: '\\' :: escapePath text)) ≤ _
          rw [hstart]
          simpa using hescaped []
        · split
          · rename_i heq
            subst heq
            refine ⟨?_, hescaped⟩
            show size (splitConsole .gap ('\\' :: ' ' :: escapePath text)) ≤ _
            rw [hstart]
            simpa using hescaped []
          · rename_i hslash _
            have hspecial : isSpecial c = false := by
              simp [isSpecial, hslash]
              exact ⟨fun heq => hc (.inl heq), fun heq => hc (.inr heq)⟩
            constructor
            · have hone := hmore [c]
              simp [splitConsole, advance_plain hspecial] at hone ⊢
              split <;> omega
            · intro taken
              have hone := hmore (taken ++ [c])
              simp [splitConsole, advance_plain hspecial] at hone ⊢
              split
              · simp
                omega
              · omega

theorem fileVerb_intact {path line : Text} (hline : line = "-file-exec-and-symbols ".toList ++ path)
    (command : Command) :
    parse line = some command ↔
      some (.console "file-exec-and-symbols".toList ((splitConsole .gap path).map toArg)) =
        some command := by
  have hshape : line = '-' :: ("file-exec-and-symbols".toList ++ ' ' :: path) := hline
  rw [hshape, parse_verb (List.all_iff_forall_prop.mp (by decide)), machineCommand, if_pos rfl]
  rfl

/-- The path of `vmlinux` is written intact if it has no quote and no control character. -/
theorem vmlinux_intact_iff (path : ResolvedPath) :
    Intact ("-file-exec-and-symbols ".toList ++ escapePath path.text)
        (.console "file-exec-and-symbols".toList [.operand path.text]) ↔
      ∀ c ∈ path.text, isControl c = false ∧ c ≠ '"' ∧ c ≠ '\'' := by
  obtain ⟨text, habsolute⟩ := path
  have hmem : ∀ c ∈ text, c ∈ escapePath text := fun c hc => by
    refine List.mem_flatMap.mpr ⟨c, hc, ?_⟩
    split
    · simp [*]
    · split <;> simp [*]
  constructor
  · intro hintact c hc
    have hcontrol := hintact.1 c (List.mem_append_right _ (hmem c hc))
    refine ⟨hcontrol, ?_⟩
    by_contra hquote
    have hparse := (fileVerb_intact rfl _).mp hintact.2
    injection Option.some.inj hparse with _ hargs
    have hwords := words_of_toArg hargs
    have hsize := (escapePath_size_lt ⟨c, hc, by tauto⟩).1
    rw [hwords] at hsize
    have hlt : text.length + 1 ≤ text.length := by simpa [Arg.word] using hsize
    omega
  · intro h
    constructor
    · intro c hc
      have hall : ∀ c ∈ "-file-exec-and-symbols ".toList, isControl c = false :=
        List.all_iff_forall_prop.mp (by decide)
      rcases List.mem_append.mp hc with hc | hc
      · exact hall c hc
      · obtain ⟨x, hx, hc⟩ := List.mem_flatMap.mp hc
        split at hc
        · simp at hc
          rw [hc]
          rfl
        · split at hc
          · simp at hc
            rcases hc with rfl | rfl <;> rfl
          · rw [List.mem_singleton.mp hc]
            exact (h x hx).1
    · refine (fileVerb_intact rfl _).mpr ?_
      cases text with
      | nil => cases habsolute
      | cons c text =>
          obtain rfl : c = '/' := Option.some.inj habsolute
          have hword := splitConsole_escapePath
            (fun x hx => h x (List.mem_cons_of_mem _ hx)) ['/']
          have hgap : splitConsole .gap (escapePath ('/' :: text)) =
              splitConsole (.word ['/'] .none) (escapePath text) := by
            simp [escapePath_cons, splitConsole, isBlank, advance]
          rw [hgap, hword]
          rfl

/-! ## The path of a module object -/

/-- Words inside a C string come out of both splittings as they were joined only if they
have no quote and no backslash. -/
theorem console_no_special {words : List Text} (hne : words ≠ []) (hquote : '"' ∉ joined words)
    {command : Text} (hstring : splitMachine (.quoted []) (joined words ++ ['"']) = some [command])
    (hwords : splitConsole .gap command = words) :
    ∀ c ∈ joined words, isSpecial c = false := by
  have hsize := size_eq words hne
  have hle := splitConsole_size_le command .gap
  rw [hwords] at hle
  simp [Console.taken] at hle
  have hescape : '\\' ∉ joined words := fun hmem => by
    have hlt := quoted_size_lt hmem hquote hstring
    simp at hlt
    omega
  rw [splitMachine_quoted hescape hquote] at hstring
  obtain rfl : joined words = command := by simpa using hstring
  intro c hc
  cases hspecial : isSpecial c with
  | false => rfl
  | true =>
      have hlt := (splitConsole_size_lt ⟨c, hc, hspecial⟩).1
      rw [hwords] at hlt
      omega

/-- The words of `add-symbol-file`. -/
def moduleWords (ko : Text) (sections : Sections) : List Text :=
  "add-symbol-file".toList :: ko :: sections.address MODULE_TEXT_SECTION ::
    sections.others.flatMap fun section_ => ["-s".toList, section_, sections.address section_]

/-- The line that loads a module. -/
def moduleLine (ko : Text) (sections : Sections) : Text :=
  "-interpreter-exec console \"add-symbol-file ".toList ++ ko ++ ' ' ::
    sections.address MODULE_TEXT_SECTION ++ sections.extra ++ ['"']

theorem moduleLine_eq (ko : Text) (sections : Sections) :
    moduleLine ko sections = '-' :: ("interpreter-exec".toList ++ ' ' ::
      ("console".toList ++ ' ' :: '"' :: (joined (moduleWords ko sections) ++ ['"']))) := by
  have hsection : ∀ section_, " -s ".toList ++ section_ ++ ' ' :: sections.address section_ =
      ["-s".toList, section_, sections.address section_].flatMap (' ' :: ·) := by
    intro section_
    have hflag : " -s ".toList = ' ' :: ("-s".toList ++ [' ']) := rfl
    rw [hflag]
    simp only [List.flatMap_cons, List.flatMap_nil, List.cons_append, List.append_assoc,
      List.nil_append, List.append_nil]
  have hextra : sections.extra = (sections.others.flatMap fun section_ =>
      ["-s".toList, section_, sections.address section_]).flatMap (' ' :: ·) := by
    rw [Sections.extra, List.flatMap_assoc]
    exact congrArg (sections.others.flatMap ·) (funext hsection)
  -- the literal is named, so that no rewriting compares it with another one
  have hjoin : ∀ start : Text, start = '-' :: ("interpreter-exec".toList ++ ' ' ::
      ("console".toList ++ ' ' :: '"' :: ("add-symbol-file".toList ++ [' ']))) →
      start ++ ko ++ ' ' :: sections.address MODULE_TEXT_SECTION ++ sections.extra ++ ['"'] =
        '-' :: ("interpreter-exec".toList ++ ' ' ::
          ("console".toList ++ ' ' :: '"' :: (joined (moduleWords ko sections) ++ ['"']))) := by
    rintro start rfl
    simp only [moduleWords, joined_cons, hextra, List.flatMap_cons, List.cons_append,
      List.append_assoc, List.nil_append]
  exact hjoin _ rfl

/-- A console command in a C string, as gdb reads it. -/
theorem parse_moduleLine (ko : Text) (sections : Sections) (command : Command) :
    parse (moduleLine ko sections) = some command ↔
      ∃ text, splitMachine (.quoted []) (joined (moduleWords ko sections) ++ ['"']) =
        some [text] ∧ consoleCommand (splitConsole .gap text) = some command := by
  have hsplit : splitWords (' ' :: ("console".toList ++ ' ' :: '"' ::
      (joined (moduleWords ko sections) ++ ['"']))) =
      (splitMachine (.quoted []) (joined (moduleWords ko sections) ++ ['"'])).map
        ("console".toList :: ·) := rfl
  rw [moduleLine_eq, parse_verb (List.all_iff_forall_prop.mp (by decide)), machineCommand,
    if_neg (by decide), if_pos rfl, hsplit]
  generalize splitMachine _ _ = words
  cases words with
  | none => simp
  | some words =>
      cases words with
      | nil => simp
      | cons word words =>
          cases words with
          | nil => simp
          | cons next words => simp

/-- What the checks of a module's sections leave. -/
structure Checked (sections : Sections) : Prop where
  text : MODULE_TEXT_SECTION ∈ sections.entries.map Prod.fst
  matched : ∀ entry ∈ sections.entries, matchesLine isSectionName entry.1 = true ∧
    matchesLine isHexAddress entry.2 = true

/-- The sections and addresses of a module that end in no newline. -/
def Sections.Closed (sections : Sections) : Prop :=
  ∀ entry ∈ sections.entries, entry.1.getLast? ≠ some '\n' ∧ entry.2.getLast? ≠ some '\n'

theorem Sections.address_of_mem {sections : Sections} {entry : Text × Text}
    (h : entry ∈ sections.entries) : sections.address entry.1 = entry.2 := by
  simp [Sections.address, Association.lookup_of_mem sections.nodup h]

theorem Sections.mem_others {sections : Sections} {section_ : Text} :
    section_ ∈ sections.others ↔
      section_ ∈ sections.entries.map Prod.fst ∧ section_ ≠ MODULE_TEXT_SECTION := by
  rw [Sections.others, List.mem_filter, (List.perm_insertionSort _ _).mem_iff]
  simp

/-- The sections of a module that end in no newline are bare. -/
theorem Checked.bare {sections : Sections} (h : Checked sections) (hclosed : sections.Closed)
    {section_ : Text} (hsection : section_ ∈ sections.entries.map Prod.fst) :
    Bare section_ ∧ Bare (sections.address section_) := by
  obtain ⟨entry, hentry, rfl⟩ := List.mem_map.mp hsection
  obtain ⟨hname, haddress⟩ := h.matched entry hentry
  obtain ⟨hname', haddress'⟩ := hclosed entry hentry
  rw [Sections.address_of_mem hentry]
  exact ⟨.of_sectionName (matches_of hname hname'), .of_hexAddress (matches_of haddress haddress')⟩

theorem mem_joined_of {words : List Text} {word : Text} {c : Char} (hword : word ∈ words)
    (hc : c ∈ word) : c ∈ joined words := by
  cases words with
  | nil => cases hword
  | cons first words =>
      rw [joined_cons]
      cases List.mem_cons.mp hword with
      | inl heq => exact List.mem_append_left _ (heq ▸ hc)
      | inr hword =>
          exact List.mem_append_right _
            (List.mem_flatMap.mpr ⟨word, hword, List.mem_cons_of_mem _ hc⟩)

/-- What a word of the command has, the line has. -/
theorem mem_moduleLine {ko word : Text} {sections : Sections} {c : Char}
    (hword : word ∈ moduleWords ko sections) (hc : c ∈ word) : c ∈ moduleLine ko sections := by
  rw [moduleLine_eq]
  refine List.mem_cons_of_mem _ (List.mem_append_right _ (List.mem_cons_of_mem _ ?_))
  refine List.mem_append_right _ (List.mem_cons_of_mem _ (List.mem_cons_of_mem _ ?_))
  exact List.mem_append_left _ (mem_joined_of hword hc)

/-- A name or an address that ends in a newline spoils the line. -/
theorem closed_of_intact {ko : Text} {sections : Sections} {command : Command}
    (h : Intact (moduleLine ko sections) command) : sections.Closed := by
  have hspoilt : ∀ word ∈ moduleWords ko sections, word.getLast? ≠ some '\n' :=
    fun word hword hend =>
      newline_not_intact (mem_moduleLine hword (List.mem_of_getLast? hend)) _ h
  intro entry hentry
  have hkey : entry.1 ∈ sections.entries.map Prod.fst := List.mem_map_of_mem hentry
  have haddress := Sections.address_of_mem hentry
  by_cases htext : entry.1 = MODULE_TEXT_SECTION
  · refine ⟨?_, hspoilt _ ?_⟩
    · rw [htext]
      decide
    · rw [← haddress, htext]
      simp [moduleWords]
  · have hother := Sections.mem_others.mpr ⟨hkey, htext⟩
    constructor
    · refine hspoilt _ (List.mem_cons_of_mem _ (List.mem_cons_of_mem _
        (List.mem_cons_of_mem _ (List.mem_flatMap.mpr ⟨_, hother, ?_⟩))))
      simp
    · refine hspoilt _ (List.mem_cons_of_mem _ (List.mem_cons_of_mem _
        (List.mem_cons_of_mem _ (List.mem_flatMap.mpr ⟨_, hother, ?_⟩))))
      simp [haddress]

/-- The words but for the path are plain. -/
theorem moduleWords_plain {ko word : Text} {sections : Sections} (h : Checked sections)
    (hclosed : sections.Closed) (hword : word ∈ moduleWords ko sections) :
    word = ko ∨ Plain word ∧ ∀ c ∈ word, isControl c = false := by
  have hbare : ∀ {text}, Bare text → Plain text ∧ ∀ c ∈ text, isControl c = false :=
    fun hbare => ⟨hbare.plain, hbare.printable⟩
  have hverb : (∀ c ∈ "add-symbol-file".toList, isBlank c = false ∧ isSpecial c = false) ∧
      ∀ c ∈ "add-symbol-file".toList, isControl c = false :=
    ⟨List.all_iff_forall_prop.mp (by decide), List.all_iff_forall_prop.mp (by decide)⟩
  have hflag : (∀ c ∈ "-s".toList, isBlank c = false ∧ isSpecial c = false) ∧
      ∀ c ∈ "-s".toList, isControl c = false :=
    ⟨List.all_iff_forall_prop.mp (by decide), List.all_iff_forall_prop.mp (by decide)⟩
  rcases List.mem_cons.mp hword with rfl | hword
  · exact .inr ⟨⟨by decide, hverb.1⟩, hverb.2⟩
  rcases List.mem_cons.mp hword with rfl | hword
  · exact .inl rfl
  rcases List.mem_cons.mp hword with rfl | hword
  · exact .inr (hbare (h.bare hclosed h.text).2)
  obtain ⟨section_, hsection, hword⟩ := List.mem_flatMap.mp hword
  have hsections := h.bare hclosed (Sections.mem_others.mp hsection).1
  rcases List.mem_cons.mp hword with rfl | hword
  · exact .inr ⟨⟨by decide, hflag.1⟩, hflag.2⟩
  rcases List.mem_cons.mp hword with rfl | hword
  · exact .inr (hbare hsections.1)
  · rw [List.mem_singleton.mp hword]
    exact .inr (hbare hsections.2)

/-- The words behind the path, as arguments. -/
theorem sections_toArg {sections : Sections} (h : Checked sections)
    (hclosed : sections.Closed) :
    (sections.address MODULE_TEXT_SECTION :: sections.others.flatMap fun section_ =>
        ["-s".toList, section_, sections.address section_]).map toArg =
      .operand (sections.address MODULE_TEXT_SECTION) :: sections.args := by
  rw [List.map_cons, (h.bare hclosed h.text).2.toArg, List.map_flatMap, Sections.args]
  congr 1
  refine List.flatMap_congr fun section_ hsection => ?_
  have hbare := h.bare hclosed (Sections.mem_others.mp hsection).1
  rw [List.map_cons, List.map_cons, List.map_cons, hbare.1.toArg, hbare.2.toArg]
  rfl

/-- What the check of a module object's path leaves. -/
def PathChecked (ko : Text) : Prop :=
  ∀ c ∈ ko, c ≠ ' ' ∧ c ≠ '\t' ∧ c ≠ '\r' ∧ c ≠ '\n' ∧ c ≠ '"'

/-- A path that no splitting looks into. -/
def PathIntact (ko : Text) : Prop :=
  (∀ c ∈ ko, isControl c = false ∧ c ≠ '\\' ∧ c ≠ '\'') ∧ ko.head? ≠ some '-'

/-- A checked path without control characters has no blank. -/
theorem PathChecked.not_blank {ko : Text} (h : PathChecked ko) {c : Char} (hc : c ∈ ko)
    (hcontrol : isControl c = false) : isBlank c = false := by
  obtain ⟨hspace, htab, hreturn, hnewline, _⟩ := h c hc
  have hvertical : c ≠ '\x0b' := fun heq => by
    subst heq
    cases hcontrol
  have hfeed : c ≠ '\x0c' := fun heq => by
    subst heq
    cases hcontrol
  simp [isBlank, *]

/-- A module is loaded intact if names and addresses end in no newline and the path stays
as it is. -/
theorem module_intact_iff {ko : PathText} {sections : Sections} (h : Checked sections)
    (hko : PathChecked ko.text) :
    Intact (moduleLine ko.text sections) (.console "add-symbol-file".toList
        (.operand ko.text :: .operand (sections.address MODULE_TEXT_SECTION) :: sections.args)) ↔
      sections.Closed ∧ PathIntact ko.text := by
  constructor
  · intro hintact
    have hclosed := closed_of_intact hintact
    have hpath : ko.text ∈ moduleWords ko.text sections := by simp [moduleWords]
    have hquote : '"' ∉ joined (moduleWords ko.text sections) := fun hmem => by
      rcases mem_joined hmem with heq | ⟨word, hword, hmem⟩
      · cases heq
      · rcases moduleWords_plain h hclosed hword with rfl | ⟨hplain, _⟩
        · exact (hko _ hmem).2.2.2.2 rfl
        · have := (hplain.2 _ hmem).2
          cases this
    obtain ⟨text, hstring, hcommand⟩ := (parse_moduleLine ..).mp hintact.2
    obtain ⟨words, hwords⟩ : ∃ words, splitConsole .gap text = words := ⟨_, rfl⟩
    rw [hwords] at hcommand
    cases words with
    | nil => cases hcommand
    | cons verb words =>
        injection Option.some.inj hcommand with hverb hargs
        have hlist : verb :: words = moduleWords ko.text sections := by
          have hback := words_of_toArg hargs
          have hrest := words_of_toArg (sections_toArg h hclosed)
          rw [hverb, hback, moduleWords, hrest]
          rfl
        rw [hlist] at hwords
        have hspecial := console_no_special (List.cons_ne_nil _ _) hquote hstring hwords
        refine ⟨hclosed, fun c hc => ⟨hintact.1 c (mem_moduleLine hpath hc), ?_, ?_⟩, ?_⟩
        · rintro rfl
          cases hspecial _ (mem_joined_of hpath hc)
        · rintro rfl
          cases hspecial _ (mem_joined_of hpath hc)
        · intro hdash
          injection hlist with _ hlist
          rw [hlist, List.map_cons] at hargs
          injection hargs with hfirst
          rw [toArg, if_pos hdash] at hfirst
          cases hfirst
  · rintro ⟨hclosed, hpath, hdash⟩
    have hplain : ∀ word ∈ moduleWords ko.text sections,
        Plain word ∧ ∀ c ∈ word, isControl c = false := by
      intro word hword
      rcases moduleWords_plain h hclosed hword with rfl | hplain
      · refine ⟨⟨ko.filled, fun c hc => ?_⟩, fun c hc => (hpath c hc).1⟩
        obtain ⟨hcontrol, hslash, hsingle⟩ := hpath c hc
        exact ⟨hko.not_blank hc hcontrol, by simp [isSpecial, hslash, hsingle, hko c hc]⟩
      · exact hplain
    have hno : ∀ c, isSpecial c = true → c ∉ joined (moduleWords ko.text sections) := by
      intro c hc hmem
      rcases mem_joined hmem with rfl | ⟨word, hword, hmem⟩
      · cases hc
      · rw [((hplain word hword).1.2 c hmem).2] at hc
        cases hc
    constructor
    · intro c hc
      have hstart : ∀ c ∈ "-interpreter-exec console \"".toList, isControl c = false :=
        List.all_iff_forall_prop.mp (by decide)
      have hline : moduleLine ko.text sections = "-interpreter-exec console \"".toList ++
          (joined (moduleWords ko.text sections) ++ ['"']) := (moduleLine_eq ..).trans rfl
      rw [hline, List.mem_append, List.mem_append] at hc
      rcases hc with hc | hc | hc
      · exact hstart c hc
      · rcases mem_joined hc with rfl | ⟨word, hword, hc⟩
        · rfl
        · exact (hplain word hword).2 c hc
      · rw [List.mem_singleton.mp hc]
        rfl
    · refine (parse_moduleLine ..).mpr ⟨_, splitMachine_quoted (hno _ rfl) (hno _ rfl) [], ?_⟩
      rw [List.nil_append, splitConsole_joined fun word hword => (hplain word hword).1]
      show some (Command.console _ (toArg ko.text :: _)) = _
      rw [toArg_of_head hdash, sections_toArg h hclosed]

/-! ## All calls -/

/-- The calls whose lines are intact. -/
def Unbroken : Request → Prop
  | .resolveSymbol text | .readSymbol text | .setBreakpoint text | .setWatchpoint text
  | .clearBreakpoint text => text.getLast? ≠ some '\n'
  | .evaluateInspector inspector symbol =>
      inspector = "kernel_version".toList ∨ ∀ text ∈ symbol, text.getLast? ≠ some '\n'
  | .readMemory _ _ | .readRegisters _ => True
  | .loadModuleSymbols _ ko sections => sections.Closed ∧ PathIntact ko.text
  | .loadVmlinux path => ∀ c ∈ path.text, isControl c = false ∧ c ≠ '"' ∧ c ≠ '\''

/-- What a check before one line leaves. -/
theorem check_ok {pattern : Text → Bool} {text line : Text} {message : String}
    {details : List (String × Text)} {lines : List Text}
    (h : (do check pattern text message details; return [line]) = Except.ok lines) :
    matchesLine pattern text = true ∧ lines = [line] := by
  unfold check at h
  split at h
  · exact ⟨‹_›, (Except.ok.inj h).symm⟩
  · cases h

theorem forall₂_one {line : Text} {command : Command} :
    List.Forall₂ Intact [line] [command] ↔ Intact line command := by simp

/-- What the checks of `load_module_symbols` leave. -/
theorem loadModuleSymbols_ok {name : Text} {ko : PathText} {sections : Sections}
    {lines : List Text} (h : loadModuleSymbols name ko sections = .ok lines) :
    Checked sections ∧ PathChecked ko.text ∧ lines = [moduleLine ko.text sections] := by
  unfold loadModuleSymbols at h
  by_cases htext : MODULE_TEXT_SECTION ∈ sections.entries.map Prod.fst
  · rw [if_neg (not_not_intro htext)] at h
    cases hfind : sections.entries.find? fun entry =>
        !matchesLine isSectionName entry.1 || !matchesLine isHexAddress entry.2 with
    | some entry =>
        rw [hfind] at h
        cases h
    | none =>
        rw [hfind] at h
        have hmatched := List.find?_eq_none.mp hfind
        cases hany : ko.text.any fun c =>
            c = ' ' || c = '\t' || c = '\r' || c = '\n' || c = '"' with
        | true =>
            simp only [consoleKo, hany] at h
            cases h
        | false =>
            simp only [consoleKo, hany] at h
            refine ⟨⟨htext, fun entry hentry => ?_⟩, fun c hc => ?_, (Except.ok.inj h).symm⟩
            · simpa using hmatched entry hentry
            · simpa [and_assoc] using List.any_eq_false.mp hany c hc
  · rw [if_pos htext] at h
    cases h

/-- An inspector writes one fixed line or resolves its symbol. -/
theorem evaluateInspector_ok {inspector : Text} {symbol : Option Text} {lines : List Text}
    (h : evaluateInspector inspector symbol = .ok lines) :
    (inspector = "kernel_version".toList ∧ lines = [evaluateLine CANONICAL_PROBE_SYMBOL]) ∨
      (inspector ≠ "kernel_version".toList ∧
        ∃ name, symbol = some name ∧ resolveSymbol name = .ok lines) := by
  unfold evaluateInspector at h
  by_cases hversion : inspector = "kernel_version".toList
  · rw [if_pos hversion] at h
    exact .inl ⟨hversion, (Except.ok.inj h).symm⟩
  · rw [if_neg hversion] at h
    refine .inr ⟨hversion, ?_⟩
    split at h
    · cases symbol with
      | none => cases h
      | some name =>
          dsimp only at h
          split at h
          · exact ⟨name, rfl, h⟩
          · cases h
    · cases h

/-- `resolve_symbol` writes its line intact unless the name ends in a newline. -/
theorem resolveSymbol_intact_iff {symbol : Text} {lines : List Text}
    (h : resolveSymbol symbol = .ok lines) :
    List.Forall₂ Intact lines [evaluate ('&' :: symbol)] ↔ symbol.getLast? ≠ some '\n' := by
  obtain ⟨hmatch, rfl⟩ := check_ok h
  exact forall₂_one.trans (name_intact_iff hmatch
    (fun c hc => mem_evaluateLine (List.mem_cons_of_mem _ hc))
    fun hname => evaluate_intact (Bare.of_symbolName hname).address)

/-- A verb and bare words are intact. -/
theorem bare_intact {verb : Text} {words : List Text}
    (hverb : ∀ c ∈ verb, isBlank c = false ∧ isControl c = false)
    (hfile : verb ≠ "file-exec-and-symbols".toList) (hconsole : verb ≠ "interpreter-exec".toList)
    (hwords : ∀ word ∈ words, Bare word) :
    Intact ('-' :: (verb ++ ' ' :: joined words)) (.machine verb (words.map .operand)) :=
  machine_intact hverb hfile hconsole
    (fun word hword => ⟨(hwords word hword).plain, (hwords word hword).printable⟩)
    (List.map_congr_left fun word hword => (hwords word hword).toArg)

/-- `read_memory` writes its line intact. -/
theorem readMemory_intact {address byteCount : Int} {lines : List Text}
    (h : readMemory address byteCount = .ok lines) :
    List.Forall₂ Intact lines (intended (.readMemory address byteCount)) := by
  unfold readMemory at h
  split at h
  · cases h
  · split at h
    · cases h
    · rw [← Except.ok.inj h]
      have hwords : ∀ word ∈ [hexText address.toNat, decimalText byteCount.toNat], Bare word := by
        intro word hword
        rcases List.mem_cons.mp hword with rfl | hword
        · exact bare_hexText _
        · rw [List.mem_singleton.mp hword]
          exact bare_decimalText _
      exact forall₂_one.mpr (bare_intact
        (List.all_iff_forall_prop.mp (by decide) : ∀ c ∈ "data-read-memory-bytes".toList,
        isBlank c = false ∧ isControl c = false)
        (by decide) (by decide) hwords)

/-- `read_registers` writes two fixed lines. -/
theorem readRegisters_intact {names : List Text} {lines : List Text}
    (h : readRegisters names = .ok lines) :
    List.Forall₂ Intact lines (intended (.readRegisters names)) := by
  unfold readRegisters at h
  have hlines : lines = ["-data-list-register-names".toList,
      "-data-list-register-values x".toList] := by
    split at h
    · cases h
    · cases hfind : names.find? fun name => !matchesLine isRegister name with
      | some name =>
          rw [hfind] at h
          cases h
      | none =>
          rw [hfind] at h
          exact (Except.ok.inj h).symm
  rw [hlines]
  exact .cons (by decide) (.cons (by decide) .nil)

/-- `load_vmlinux` writes its line intact unless the path has a quote or a control
character. -/
theorem loadVmlinux_intact_iff {path : ResolvedPath} {lines : List Text}
    (h : loadVmlinux path = .ok lines) :
    List.Forall₂ Intact lines (intended (.loadVmlinux path)) ↔
      ∀ c ∈ path.text, isControl c = false ∧ c ≠ '"' ∧ c ≠ '\'' := by
  unfold loadVmlinux miPath at h
  split at h
  · cases h
  · rw [← Except.ok.inj h]
    exact forall₂_one.trans (vmlinux_intact_iff path)

end Kdive.GdbMi

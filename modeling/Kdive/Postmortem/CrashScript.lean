import Kdive.GdbMi.Commands
import Kdive.Lib.CommandLine
import Kdive.Lib.Lines
import Kdive.Lib.Utf8
import Kdive.Safety.Redaction

/-!
# The script of a crash batch

A batch of `crash` commands is checked command by command and written as one script for
the standard input of `crash`.  Each command is redirected to a file of its own in the
directory of the call, after an optional line that loads the modules.

*Checks.*  A command has no control character and no shell metacharacter, does not begin
with `!`, and begins with an allowed verb.  The path of the modules is matched against a
pattern between `^` and `$`.  The directory is not checked.
-/

namespace Kdive.Crash

open GdbMi

/-- `_DENY_CHARS`. -/
def DENY_CHARS : List Text :=
  ["|".toList, ">".toList, "<".toList, "`".toList, "$(".toList, ";".toList, "&".toList]

/-- A control character. -/
def isControl (c : Char) : Bool := c.toNat < 0x20 || c.toNat = 0x7f

/-- `MAX_CRASH_COMMANDS`. -/
def MAX_CRASH_COMMANDS : Nat := 64

/-- `CRASH_SCRIPT_BYTE_CAP`. -/
def CRASH_SCRIPT_BYTE_CAP : Nat := 64 * 1024

/-- `CRASH_COMMAND_ALLOWLIST`. -/
def CRASH_COMMAND_ALLOWLIST : List Text :=
  ["bt".toList, "ps".toList, "log".toList, "kmem".toList, "sys".toList, "mod".toList,
    "struct".toList, "union".toList, "p".toList, "rd".toList, "vtop".toList, "task".toList,
    "files".toList, "vm".toList, "net".toList, "dev".toList, "irq".toList, "mach".toList,
    "runq".toList, "mount".toList, "swap".toList, "timer".toList, "dis".toList, "sym".toList,
    "list".toList, "tree".toList, "search".toList, "foreach".toList, "help".toList]

/-- `MOD_LOAD_FILENAME`. -/
def MOD_LOAD_FILENAME : Text := "mod-load.out".toList

/-- `lower` and `repr` of the interpreter, with its tables of characters. -/
structure Interpreter where
  lower : Text → Text
  repr : Text → Text

/-- `str.strip`. -/
def strip (text : Text) : Text := Lines.trim isSpace text

/-- `text.split()[0]` of a text that is not blank. -/
def firstWord (text : Text) : Text := (text.dropWhile isSpace).takeWhile fun c => !isSpace c

/-- `crash_command_rejection_reason` -/
def crashCommandRejectionReason (py : Interpreter) (command : Text) (allowlist : List Text) :
    Option Text :=
  match strip command with
  | [] => some "empty command".toList
  | first :: rest =>
      if command.any isControl then
        some "command contains a newline or control character".toList
      else if first = '!' then some "shell escape ('!') is not permitted".toList
      else
        match DENY_CHARS.find? fun token => token <:+: command with
        | some token => some ("disallowed metacharacter ".toList ++ py.repr token)
        | none =>
            if py.lower (firstWord (first :: rest)) ∈ allowlist then none
            else some ("verb ".toList ++ py.repr (py.lower (firstWord (first :: rest))) ++
              " is not in the crash command allowlist".toList)

/-- A letter, a digit, or one of `.`, `_`, `/` and `-`. -/
def isPathChar (c : Char) : Bool :=
  isLetter c || isDigit c || c = '.' || c = '_' || c = '/' || c = '-'

/-- `validate_modules_path` -/
def validateModulesPath (path : Text) : Bool :=
  matchesLine (fun path => !path.isEmpty && path.all isPathChar) path

/-- A failed check of a batch. -/
structure CrashFailure where
  code : String
  message : Text
  /-- The command that was refused, and why. -/
  refused : Option (Text × Text)
deriving DecidableEq

/-- `_validate_crash_commands` -/
def validateCrashCommands (py : Interpreter) (commands : List Text) : Option CrashFailure :=
  if commands = [] ∨ MAX_CRASH_COMMANDS < commands.length then
    some ⟨"invalid_commands", "commands must be 1..64".toList, none⟩
  else if ¬ (commands.map strip).Nodup then
    some ⟨"invalid_commands", "duplicate command".toList, none⟩
  else if CRASH_SCRIPT_BYTE_CAP < ((commands.map strip).map fun c => (Utf8.encode c).length).sum then
    some ⟨"invalid_commands", "command script too large".toList, none⟩
  else
    (commands.map strip).findSome? fun command =>
      (crashCommandRejectionReason py command CRASH_COMMAND_ALLOWLIST).map fun reason =>
        ⟨"command_not_permitted", "command not permitted: ".toList ++ reason,
          some (command, reason)⟩

/-- `redirect_filename`, `cmd-NNNN.out`. -/
def redirectFilename (index : Nat) : Text :=
  "cmd-".toList ++ List.replicate (4 - (decimalText index).length) '0' ++ decimalText index ++
    ".out".toList

/-- `output_dir / name`. -/
def inDir (outputDir name : Text) : Text := outputDir ++ '/' :: name

/-- `uuid.uuid4().hex`. -/
structure CallId where
  text : Text
  digits : text.length = 32
  hex : ∀ c ∈ text, isHexDigit c = true

/-- The directory of a call inside the directory of its run. -/
def sensitiveCallDir (runDir : Text) (callId : CallId) : Text :=
  inDir runDir ("sensitive/debug/postmortem/crash/".toList ++ callId.text)

/-- A command with its output redirected. -/
def redirected (command target : Text) : Text := command ++ " > ".toList ++ target

/-- The line that loads the modules. -/
def moduleLine (outputDir path : Text) : Text :=
  redirected ("mod -S ".toList ++ path) (inDir outputDir MOD_LOAD_FILENAME)

/-- The lines of a script. -/
def scriptLines (commands : List Text) (outputDir : Text) (modulesPath : Option Text) : List Text :=
  modulesPath.toList.map (moduleLine outputDir) ++
    (commands.mapIdx fun index command =>
      redirected command (inDir outputDir (redirectFilename index))) ++ ["exit".toList]

/-- `build_command_script` -/
def buildCommandScript (commands : List Text) (outputDir : Text) (modulesPath : Option Text) : Text :=
  ['\n'].intercalate (scriptLines commands outputDir modulesPath) ++ ['\n']

/-! ## What the checks establish -/

theorem not_mem_of_infix {c : Char} {command : Text} (h : ¬ [c] <:+: command) : c ∉ command := by
  intro hc
  obtain ⟨before, since, rfl⟩ := List.append_of_mem hc
  exact h ⟨before, since, by simp⟩

/-- An accepted command has nothing the shell or `crash` could take for more than a command. -/
structure Accepted (command : Text) : Prop where
  control : ∀ c ∈ command, isControl c = false
  denied : ∀ token ∈ DENY_CHARS, ¬ token <:+: command
  escape : (strip command).head? ≠ some '!'
  filled : strip command ≠ []

theorem accepted_of_reason {py : Interpreter} {command : Text} {allowlist : List Text}
    (h : crashCommandRejectionReason py command allowlist = none) : Accepted command := by
  rw [crashCommandRejectionReason] at h
  split at h
  · cases h
  · next first rest hstrip =>
      split at h
      · cases h
      · next hcontrol =>
          split at h
          · cases h
          · next hfirst =>
              split at h
              · cases h
              · next hfind =>
                  refine ⟨fun c hc => ?_, fun token htoken => ?_, ?_, ?_⟩
                  · by_contra hc'
                    exact hcontrol (List.any_eq_true.mpr ⟨c, hc, by simpa using hc'⟩)
                  · have hnone := List.find?_eq_none.mp hfind token htoken
                    simpa using hnone
                  · rw [hstrip]
                    simpa using hfirst
                  · rw [hstrip]
                    exact List.cons_ne_nil _ _

/-- What a checked batch comes to. -/
theorem accepted_of_validate {py : Interpreter} {commands : List Text}
    (h : validateCrashCommands py commands = none) :
    commands ≠ [] ∧ (commands.map strip).Nodup ∧ ∀ command ∈ commands.map strip, Accepted command := by
  rw [validateCrashCommands] at h
  split at h
  · cases h
  · next hcount =>
      split at h
      · cases h
      · next hnodup =>
          split at h
          · cases h
          · refine ⟨fun hnil => hcount (.inl hnil), not_not.mp hnodup, fun command hcommand => ?_⟩
            have hnone := List.findSome?_eq_none_iff.mp h command hcommand
            exact accepted_of_reason (Option.map_eq_none_iff.mp hnone)

/-! ## What `crash` reads -/

/-- The command of a line and the file its output goes to, if the line redirects once and to
one word. -/
def redirection (line : Text) : Option (Text × Text) :=
  match line.splitOn '>' with
  | [command, behind] =>
      match (behind.splitOnP CommandLine.isBlank).filter fun word => !word.isEmpty with
      | [target] => some (Lines.trim CommandLine.isBlank command, target)
      | _ => none
  | _ => none

/-- A line without a shell escape, a pipe or a further command. -/
def Harmless (line : Text) : Prop :=
  (Lines.trim CommandLine.isBlank line).head? ≠ some '!' ∧
    ∀ token ∈ DENY_CHARS, token ≠ ['>'] → ¬ token <:+: line

/-- A line that runs a command with its output in a file, and nothing else. -/
def Sends (line : Text) (order : Text × Text) : Prop :=
  redirection line = some order ∧ Harmless line

/-- The files after some lines.  `output` is what `crash` prints for the command of the `n`-th
line of a script. -/
def run (output : Nat → Text → Text) : Nat → List Text → (Text → Option Text) → Text → Option Text
  | _, [], files => files
  | n, line :: lines, files =>
      match redirection line with
      | some (command, target) =>
          run output (n + 1) lines (Function.update files target (some (output n command)))
      | none => run output (n + 1) lines files

/-- The commands of a script with their files. -/
def orders (commands : List Text) (outputDir : Text) (modulesPath : Option Text) :
    List (Text × Text) :=
  (modulesPath.toList.map fun path =>
    ("mod -S ".toList ++ path, inDir outputDir MOD_LOAD_FILENAME)) ++
      commands.mapIdx fun index command => (command, inDir outputDir (redirectFilename index))

/-- A script with one line for each command and its own file for each line. -/
structure Framed (commands : List Text) (outputDir : Text) (modulesPath : Option Text)
    (script : Text) : Prop where
  /-- The lines send the commands in their order, and the last one leaves. -/
  lines : ∃ lines, Lines.read script = lines ++ ["exit".toList] ∧
    List.Forall₂ Sends lines (orders commands outputDir modulesPath)
  direct : ∀ order ∈ orders commands outputDir modulesPath,
    ∃ name, '/' ∉ name ∧ order.2 = inDir outputDir name
  distinct : ((orders commands outputDir modulesPath).map Prod.snd).Nodup
  /-- What is read back for a command is what was printed for it. -/
  attributed : ∀ output (index : Nat) (h : index < commands.length),
    run output 0 (Lines.read script) (fun _ => none) (inDir outputDir (redirectFilename index)) =
      some (output (modulesPath.toList.length + index) commands[index])

/-- A directory whose name is one word of a line. -/
structure PlainDir (dir : Text) : Prop where
  solid : ∀ c ∈ dir, CommandLine.isBlank c = false
  denied : ∀ token ∈ DENY_CHARS, ¬ token <:+: dir

/-! ## Names of files -/

theorem isDigit_of_mem_decimalText {n : Nat} {c : Char} (hc : c ∈ decimalText n) :
    isDigit c = true := by
  have hdigit := Nat.isDigit_of_mem_toDigits (by decide) (by decide) hc
  simpa [isDigit, Char.isDigit, Char.le_def] using hdigit

theorem isPathChar_of_isDigit {c : Char} (hc : isDigit c = true) : isPathChar c = true := by
  simp [isPathChar, hc]

theorem isPathChar_of_isHexDigit {c : Char} (hc : isHexDigit c = true) : isPathChar c = true := by
  simp [isHexDigit, isPathChar, isLetter, Char.le_def] at hc ⊢
  grind

theorem ne_slash_of_isDigit {c : Char} (hc : isDigit c = true) : c ≠ '/' := by
  rintro rfl
  cases hc

/-- The digits of the name of a file. -/
def paddedDigits (index : Nat) : Text :=
  List.replicate (4 - (decimalText index).length) '0' ++ decimalText index

theorem redirectFilename_eq (index : Nat) :
    redirectFilename index = "cmd-".toList ++ paddedDigits index ++ ".out".toList := by
  simp [redirectFilename, paddedDigits]

theorem isDigit_of_mem_paddedDigits {index : Nat} {c : Char} (hc : c ∈ paddedDigits index) :
    isDigit c = true := by
  rcases List.mem_append.mp hc with hzero | hdigit
  · rw [List.eq_of_mem_replicate hzero]
    rfl
  · exact isDigit_of_mem_decimalText hdigit

theorem redirectFilename_plain (index : Nat) :
    ∀ c ∈ redirectFilename index, isPathChar c = true ∧ c ≠ '/' := by
  intro c hc
  rw [redirectFilename_eq, List.mem_append, List.mem_append] at hc
  rcases hc with (hfirst | hdigit) | hlast
  · have hall : ∀ c ∈ "cmd-".toList, isPathChar c = true ∧ c ≠ '/' :=
      List.all_iff_forall_prop.mp (by decide)
    exact hall c hfirst
  · have hdigit := isDigit_of_mem_paddedDigits hdigit
    exact ⟨isPathChar_of_isDigit hdigit, ne_slash_of_isDigit hdigit⟩
  · have hall : ∀ c ∈ ".out".toList, isPathChar c = true ∧ c ≠ '/' :=
      List.all_iff_forall_prop.mp (by decide)
    exact hall c hlast

/-- Zeros before a number do not change it, so the names of two files differ. -/
theorem redirectFilename_injective {m n : Nat} (h : redirectFilename m = redirectFilename n) :
    m = n := by
  rw [redirectFilename_eq, redirectFilename_eq, List.append_left_inj, List.append_right_inj] at h
  have hvalue : ∀ k, Nat.ofDigitChars 10 (paddedDigits k) 0 = k := by
    intro k
    rw [paddedDigits, decimalText, Nat.ofDigitChars_append, Nat.ofDigitChars_replicate_zero,
      Nat.mul_zero, Nat.ofDigitChars_ten_toDigits]
  rw [← hvalue m, h, hvalue n]

theorem inDir_inj {dir left right : Text} : inDir dir left = inDir dir right ↔ left = right := by
  simp [inDir]

/-- No file of a command is the file of the modules. -/
theorem redirectFilename_ne_modules (index : Nat) : redirectFilename index ≠ MOD_LOAD_FILENAME := by
  intro h
  have hfirst : "cmd-".toList.head? = some 'c' := by decide
  have hmodules : MOD_LOAD_FILENAME.head? = some 'm' := by decide
  rw [← h, redirectFilename_eq, List.append_assoc, List.head?_append, hfirst] at hmodules
  cases hmodules

/-- The files of a script differ. -/
theorem orders_nodup (commands : List Text) (outputDir : Text) (modulesPath : Option Text) :
    ((orders commands outputDir modulesPath).map Prod.snd).Nodup := by
  have hcommands : ((commands.mapIdx fun index command =>
      (command, inDir outputDir (redirectFilename index))).map Prod.snd).Nodup := by
    rw [List.nodup_iff_injective_get]
    intro i j h
    simp [inDir_inj] at h
    exact Fin.ext (redirectFilename_injective h)
  rw [orders, List.map_append, List.nodup_append]
  refine ⟨?_, hcommands, ?_⟩
  · cases modulesPath <;> simp
  · intro first hfirst second hsecond heq
    subst heq
    simp only [List.mem_map] at hfirst
    obtain ⟨_, ⟨path, -, rfl⟩, rfl⟩ := hfirst
    obtain ⟨order, horder, heq⟩ := List.mem_map.mp hsecond
    obtain ⟨index, _, rfl⟩ := List.mem_mapIdx.mp horder
    exact redirectFilename_ne_modules index (inDir_inj.mp heq)

/-- Each file is directly inside the directory. -/
theorem orders_direct {commands : List Text} {outputDir : Text} {modulesPath : Option Text}
    {order : Text × Text} (h : order ∈ orders commands outputDir modulesPath) :
    ∃ name, (∀ c ∈ name, isPathChar c = true ∧ c ≠ '/') ∧ order.2 = inDir outputDir name := by
  rcases List.mem_append.mp h with hmodules | hcommand
  · obtain ⟨path, -, rfl⟩ := List.mem_map.mp hmodules
    have hplain : ∀ c ∈ MOD_LOAD_FILENAME, isPathChar c = true ∧ c ≠ '/' :=
      List.all_iff_forall_prop.mp (by decide)
    exact ⟨MOD_LOAD_FILENAME, hplain, rfl⟩
  · obtain ⟨index, _, rfl⟩ := List.mem_mapIdx.mp hcommand
    exact ⟨redirectFilename index, redirectFilename_plain index, rfl⟩

/-- The file of a command, and its place among the files. -/
theorem orders_getElem {commands : List Text} {outputDir : Text} {modulesPath : Option Text}
    {index : Nat} (h : index < commands.length) :
    (orders commands outputDir modulesPath)[modulesPath.toList.length + index]? =
      some (commands[index], inDir outputDir (redirectFilename index)) := by
  rw [orders, List.getElem?_append_right (by simp)]
  simp [h]

/-! ## What a script leaves -/

theorem run_quiet {output : Nat → Text → Text} {lines : List Text}
    (h : ∀ line ∈ lines, redirection line = none) (n : Nat) (files : Text → Option Text) :
    run output n lines files = files := by
  induction lines generalizing n with
  | nil => rfl
  | cons line lines ih =>
      rw [run, h line List.mem_cons_self]
      exact ih (fun line hline => h line (List.mem_cons_of_mem _ hline)) (n + 1)

/-- Lines that send their commands to files of their own leave what was printed for each. -/
theorem run_sends (output : Nat → Text → Text) {lines : List Text} {sent : List (Text × Text)}
    (hsends : List.Forall₂ Sends lines sent) (hnodup : (sent.map Prod.snd).Nodup) {rest : List Text}
    (hrest : ∀ line ∈ rest, redirection line = none) (n : Nat) (files : Text → Option Text) :
    (∀ (k : Nat) (order : Text × Text), sent[k]? = some order →
      run output n (lines ++ rest) files order.2 = some (output (n + k) order.1)) ∧
    ∀ target ∉ sent.map Prod.snd, run output n (lines ++ rest) files target = files target := by
  induction hsends generalizing n files with
  | nil =>
      constructor
      · intro k order horder
        simp at horder
      · intro target _
        rw [List.nil_append, run_quiet hrest]
  | @cons line order lines sent hline hlines ih =>
      rw [List.map_cons, List.nodup_cons] at hnodup
      have hstep : run output n (line :: lines ++ rest) files =
          run output (n + 1) (lines ++ rest)
            (Function.update files order.2 (some (output n order.1))) := by
        rw [List.cons_append, run, hline.1]
      obtain ⟨hsent, hother⟩ :=
        ih hnodup.2 (n + 1) (Function.update files order.2 (some (output n order.1)))
      rw [hstep]
      constructor
      · intro k found hfound
        cases k with
        | zero =>
            cases Option.some.inj hfound
            -- no later line has the same file
            rw [hother _ hnodup.1, Function.update_self, Nat.add_zero]
        | succ k => rw [hsent k found hfound, Nat.add_right_comm, Nat.add_assoc]
      · intro target htarget
        rw [List.map_cons, List.mem_cons, not_or] at htarget
        rw [hother target htarget.2, Function.update_of_ne htarget.1]

/-! ## One line -/

/-- A command that a line can send. -/
structure Sendable (command : Text) : Prop where
  single : '\n' ∉ command
  trimmed : Lines.Trimmed CommandLine.isBlank command
  escape : command.head? ≠ some '!'
  filled : command ≠ []
  denied : ∀ token ∈ DENY_CHARS, ¬ token <:+: command

theorem isSpace_of_isBlank {c : Char} (hc : CommandLine.isBlank c = true) : isSpace c = true := by
  simp [CommandLine.isBlank] at hc
  rcases hc with ((((rfl | rfl) | rfl) | rfl) | rfl) | rfl <;> decide

/-- An accepted command can be sent. -/
theorem sendable_of_accepted {command : Text} (h : Accepted (strip command)) :
    Sendable (strip command) := by
  have htrimmed := Lines.trimmed_trim isSpace command
  have hself : strip (strip command) = strip command := Lines.trim_eq_self htrimmed
  have hnot : ∀ {c : Char}, isSpace c = false → CommandLine.isBlank c = false := by
    intro c hc
    by_contra hblank
    rw [isSpace_of_isBlank (by simpa using hblank)] at hc
    cases hc
  exact {
    single := fun hmem => nomatch h.control _ hmem
    trimmed := ⟨fun c hc => hnot (htrimmed.head c hc), fun c hc => hnot (htrimmed.last c hc)⟩
    escape := hself ▸ h.escape
    filled := hself ▸ h.filled
    denied := h.denied
  }

theorem not_mem_of_denied {text : Text} (h : ∀ token ∈ DENY_CHARS, ¬ token <:+: text) :
    '>' ∉ text := not_mem_of_infix (h _ (by decide))

/-- No token of two characters has a blank or a redirection in it, and none is a path. -/
theorem token_plain {token : Text} (h : token ∈ DENY_CHARS) :
    (' ' ∉ token ∧ '/' ∉ token) ∧ (token ≠ ['>'] → '>' ∉ token) ∧
      ∃ c ∈ token, isPathChar c = false := by
  have hplain : ∀ token ∈ DENY_CHARS, (' ' ∉ token ∧ '/' ∉ token) ∧
      (token ≠ ['>'] → '>' ∉ token) ∧
      (token.any fun c => isPathChar c = false) = true := by decide
  obtain ⟨hblank, hredirects, hany⟩ := hplain token h
  exact ⟨hblank, hredirects, List.any_iff_exists_prop.mp hany⟩

theorem not_denied_of_pathChars {text : Text} (h : ∀ c ∈ text, isPathChar c = true) :
    ∀ token ∈ DENY_CHARS, ¬ token <:+: text := by
  intro token htoken hfound
  obtain ⟨-, -, c, hc, hnot⟩ := token_plain htoken
  rw [h c (hfound.subset hc)] at hnot
  cases hnot

/-- The words behind the redirection of a line. -/
def wordsBehind (target : Text) : List Text :=
  (target.splitOnP CommandLine.isBlank).filter fun word => !word.isEmpty

theorem redirection_redirected {command target : Text} (hcommand : '>' ∉ command)
    (htarget : '>' ∉ target) :
    redirection (redirected command target) =
      match wordsBehind target with
      | [word] => some (Lines.trim CommandLine.isBlank (command ++ [' ']), word)
      | _ => none := by
  have hline : redirected command target = (command ++ [' ']) ++ '>' :: ' ' :: target := by
    simp [redirected]
  have hbehind : (' ' :: target).splitOn '>' = [' ' :: target] :=
    List.splitOn_eq_singleton (by simpa using htarget)
  have hblank : (' ' :: target).splitOnP CommandLine.isBlank =
      [] :: target.splitOnP CommandLine.isBlank := by
    rw [List.splitOnP_cons_eq_if_modifyHead, if_pos (by decide)]
  rw [redirection, hline, List.splitOn_append_cons_self_of_not_mem (by simpa using hcommand),
    hbehind]
  simp only [hblank]
  rfl

theorem count_of_redirection {line : Text} {order : Text × Text}
    (h : redirection line = some order) : line.count '>' = 1 := by
  rw [redirection] at h
  split at h
  · next command behind hsplit =>
      have hlength := Lines.length_splitOnP (· == '>') line
      rw [← List.splitOn_eq_splitOnP, hsplit, ← List.count_eq_countP] at hlength
      simpa using hlength.symm
  · cases h

/-- A target is one word if it has no blank. -/
theorem wordsBehind_eq_iff {target : Text} (hne : target ≠ []) :
    wordsBehind target = [target] ↔ ∀ c ∈ target, CommandLine.isBlank c = false := by
  constructor
  · intro h
    have hmem : target ∈ wordsBehind target := h ▸ List.mem_singleton_self _
    exact Lines.not_of_mem_splitOnP (List.mem_of_mem_filter hmem)
  · intro h
    rw [wordsBehind, List.splitOnP_eq_singleton h]
    simp [hne]

theorem isBlank_of_isPathChar {c : Char} (hc : isPathChar c = true) :
    CommandLine.isBlank c = false := by
  cases hblank : CommandLine.isBlank c with
  | false => rfl
  | true =>
      simp [CommandLine.isBlank] at hblank
      rcases hblank with ((((rfl | rfl) | rfl) | rfl) | rfl) | rfl <;> cases hc

/-- A file of a plain directory is one word, with no token in it. -/
theorem plain_inDir {dir name : Text} (hdir : PlainDir dir)
    (hname : ∀ c ∈ name, isPathChar c = true) : PlainDir (inDir dir name) where
  solid := by
    intro c hc
    rcases List.mem_append.mp hc with hc | hc
    · exact hdir.solid c hc
    · cases hc with
      | head => rfl
      | tail _ hc => exact isBlank_of_isPathChar (hname c hc)
  denied := by
    intro token htoken hfound
    rcases Lines.infix_or_of_infix (token_plain htoken).1.2 hfound with hleft | hright
    · exact hdir.denied token htoken hleft
    · exact not_denied_of_pathChars hname token htoken hright

theorem plain_of_inDir {dir name : Text} (h : PlainDir (inDir dir name)) : PlainDir dir where
  solid c hc := h.solid c (List.mem_append_left _ hc)
  denied token htoken hfound :=
    h.denied token htoken (hfound.trans (List.prefix_append dir ('/' :: name)).isInfix)

theorem redirected_eq (command target : Text) :
    redirected command target = command ++ ' ' :: '>' :: ' ' :: target := by
  simp [redirected]

/-- A line has no blank at its ends and begins with its command. -/
theorem trim_redirected {command target : Text} (hcommand : Sendable command)
    (htarget : ∀ c ∈ target, CommandLine.isBlank c = false) (hne : target ≠ []) :
    (Lines.trim CommandLine.isBlank (redirected command target)).head? = command.head? := by
  obtain ⟨first, rest, rfl⟩ := List.exists_cons_of_ne_nil hcommand.filled
  have htrimmed : Lines.Trimmed CommandLine.isBlank (redirected (first :: rest) target) := by
    constructor
    · intro c hc
      exact hcommand.trimmed.head c hc
    · intro c hc
      rw [redirected, List.getLast?_append_of_ne_nil _ hne] at hc
      exact htarget c (List.mem_of_getLast? hc)
  rw [Lines.trim_eq_self htrimmed]
  rfl

/-- The tokens of a line are those of its command and of its target. -/
theorem denied_redirected {command target token : Text} (htoken : token ∈ DENY_CHARS)
    (hne : token ≠ ['>']) :
    token <:+: redirected command target ↔ token <:+: command ∨ token <:+: target := by
  obtain ⟨⟨hblank, -⟩, hredirect, c, hc, -⟩ := token_plain htoken
  rw [redirected_eq]
  constructor
  · intro h
    rcases Lines.infix_or_of_infix hblank h with h | h
    · exact .inl h
    · have hbehind := Lines.infix_of_infix_cons (hredirect hne) (List.ne_nil_of_mem hc) h
      exact .inr (Lines.infix_of_infix_cons hblank (List.ne_nil_of_mem hc) hbehind)
  · rintro (h | h)
    · exact h.trans (List.prefix_append _ _).isInfix
    · exact h.trans ⟨command ++ [' ', '>', ' '], [], by simp⟩

/-- A line sends its command to one file exactly if the name of the file is plain. -/
theorem sends_redirected_iff {command target : Text} (hcommand : Sendable command)
    (hne : target ≠ []) :
    Sends (redirected command target) (command, target) ↔ PlainDir target := by
  have hredirect := not_mem_of_denied hcommand.denied
  constructor
  · intro h
    -- the one redirection of the line is the one behind the command
    have htarget : '>' ∉ target := by
      have hone := count_of_redirection h.1
      rw [redirected_eq, List.count_append] at hone
      have hrest : (' ' :: '>' :: ' ' :: target).count '>' = target.count '>' + 1 := by simp
      rw [hrest] at hone
      exact List.count_eq_zero.mp (by omega)
    have hwords := h.1
    rw [redirection_redirected hredirect htarget] at hwords
    constructor
    · rw [← wordsBehind_eq_iff hne]
      split at hwords
      · next word hword =>
          rw [hword]
          simp at hwords
          rw [hwords.2]
      · cases hwords
    · intro token htoken hfound
      by_cases heq : token = ['>']
      · subst heq
        exact htarget (hfound.subset (List.mem_singleton_self _))
      · exact h.2.2 token htoken heq ((denied_redirected htoken heq).mpr (.inr hfound))
  · intro h
    refine ⟨?_, ?_, ?_⟩
    · rw [redirection_redirected hredirect (not_mem_of_denied h.denied),
        (wordsBehind_eq_iff hne).mpr h.solid]
      dsimp only
      rw [Lines.trim_append hcommand.trimmed rfl]
    · rw [trim_redirected hcommand h.solid hne]
      exact hcommand.escape
    · intro token htoken heq hfound
      rcases (denied_redirected htoken heq).mp hfound with hfound | hfound
      · exact hcommand.denied token htoken hfound
      · exact h.denied token htoken hfound

/-! ## The lines of a script -/

/-- A path of modules that no line can be broken with. -/
def Unbroken (modulesPath : Option Text) : Prop := ∀ path ∈ modulesPath, path.getLast? ≠ some '\n'

/-- An accepted path is one of path characters, or has a newline behind them. -/
theorem pathChars_of_validate {path : Text} (h : validateModulesPath path = true)
    (hend : path.getLast? ≠ some '\n') : (∀ c ∈ path, isPathChar c = true) ∧ path ≠ [] := by
  rw [validateModulesPath, matchesLine, decide_eq_false hend, Bool.false_and, Bool.or_false] at h
  simp at h
  exact ⟨h.2, h.1⟩

/-- The command that loads modules from a path without a newline can be sent. -/
theorem sendable_modules {path : Text} (hpath : ∀ c ∈ path, isPathChar c = true)
    (hne : path ≠ []) : Sendable ("mod -S ".toList ++ path) where
  single := by
    intro hmem
    rcases List.mem_append.mp hmem with hmem | hmem
    · revert hmem
      decide
    · cases hpath _ hmem
  trimmed := by
    constructor
    · intro c hc
      cases hc
      rfl
    · intro c hc
      rw [List.getLast?_append_of_ne_nil _ hne] at hc
      exact isBlank_of_isPathChar (hpath c (List.mem_of_getLast? hc))
  escape := by
    intro h
    cases h
  filled := by simp
  denied := by
    intro token htoken hfound
    have hsplit : "mod -S ".toList ++ path = "mod".toList ++ ' ' :: ("-S".toList ++ ' ' :: path) := by
      simp
    obtain ⟨⟨hblank, -⟩, -, -⟩ := token_plain htoken
    rw [hsplit] at hfound
    rcases Lines.infix_or_of_infix hblank hfound with hfound | hfound
    · exact not_denied_of_pathChars (List.all_iff_forall_prop.mp (by decide)) token htoken hfound
    · rcases Lines.infix_or_of_infix hblank hfound with hfound | hfound
      · exact not_denied_of_pathChars (List.all_iff_forall_prop.mp (by decide)) token htoken hfound
      · exact not_denied_of_pathChars hpath token htoken hfound

/-- The lines of a script, without the last one. -/
def sentLines (commands : List Text) (outputDir : Text) (modulesPath : Option Text) : List Text :=
  (orders commands outputDir modulesPath).map fun order => redirected order.1 order.2

theorem scriptLines_eq (commands : List Text) (outputDir : Text) (modulesPath : Option Text) :
    scriptLines commands outputDir modulesPath =
      sentLines commands outputDir modulesPath ++ ["exit".toList] := by
  have hcommands : (commands.mapIdx fun index command =>
        redirected command (inDir outputDir (redirectFilename index))) =
      (commands.mapIdx fun index command =>
        (command, inDir outputDir (redirectFilename index))).map
          fun order => redirected order.1 order.2 := by
    apply List.ext_getElem <;> simp
  rw [scriptLines, sentLines, orders, List.map_append, List.map_map, hcommands]
  rfl

/-- The orders of a checked batch send commands that can be sent, if no path breaks a line. -/
theorem sendable_orders {commands : List Text} {outputDir : Text} {modulesPath : Option Text}
    (hcommands : ∀ command ∈ commands, Sendable command)
    (hmodules : ∀ path ∈ modulesPath, validateModulesPath path = true)
    (hunbroken : Unbroken modulesPath) :
    ∀ order ∈ orders commands outputDir modulesPath, Sendable order.1 := by
  intro order horder
  rcases List.mem_append.mp horder with hmodule | hcommand
  · obtain ⟨path, hpath, rfl⟩ := List.mem_map.mp hmodule
    have hpath := Option.mem_toList.mp hpath
    obtain ⟨hchars, hne⟩ := pathChars_of_validate (hmodules path hpath) (hunbroken path hpath)
    exact sendable_modules hchars hne
  · obtain ⟨index, hindex, rfl⟩ := List.mem_mapIdx.mp hcommand
    exact hcommands _ (List.getElem_mem hindex)

/-- A line of a script has no newline if its command and its directory have none. -/
theorem newline_redirected {command target : Text} :
    '\n' ∈ redirected command target ↔ '\n' ∈ command ∨ '\n' ∈ target := by
  rw [redirected_eq]
  simp

theorem not_newline_of_plain {target : Text} (h : PlainDir target) : '\n' ∉ target :=
  fun hmem => nomatch h.solid _ hmem

theorem exit_quiet : ∀ line ∈ ["exit".toList], redirection line = none := by decide

/-- In a plain directory, and with a path that breaks no line, a checked batch is framed. -/
theorem framed_of_plain {commands : List Text} {outputDir : Text} {modulesPath : Option Text}
    (hcommands : ∀ command ∈ commands, Sendable command)
    (hmodules : ∀ path ∈ modulesPath, validateModulesPath path = true)
    (hdir : PlainDir outputDir) (hunbroken : Unbroken modulesPath) :
    Framed commands outputDir modulesPath
      (buildCommandScript commands outputDir modulesPath) := by
  have hsendable : ∀ order ∈ orders commands outputDir modulesPath, Sendable order.1 :=
    sendable_orders hcommands hmodules hunbroken
  have hplain : ∀ order ∈ orders commands outputDir modulesPath, PlainDir order.2 := by
    intro order horder
    obtain ⟨name, hname, heq⟩ := orders_direct horder
    exact heq ▸ plain_inDir hdir fun c hc => (hname c hc).1
  have hread : Lines.read (buildCommandScript commands outputDir modulesPath) =
      sentLines commands outputDir modulesPath ++ ["exit".toList] := by
    rw [buildCommandScript, scriptLines_eq]
    apply Lines.read_terminated
    · intro line hline
      rcases List.mem_append.mp hline with hline | hline
      · obtain ⟨order, horder, rfl⟩ := List.mem_map.mp hline
        rw [newline_redirected, not_or]
        exact ⟨(hsendable order horder).single, not_newline_of_plain (hplain order horder)⟩
      · rw [List.mem_singleton.mp hline]
        decide
    · simp
  have hsends : List.Forall₂ Sends (sentLines commands outputDir modulesPath)
      (orders commands outputDir modulesPath) := by
    rw [sentLines, List.forall₂_map_left_iff, List.forall₂_same]
    intro order horder
    obtain ⟨name, -, heq⟩ := orders_direct horder
    have hne : order.2 ≠ [] := by simp [heq, inDir]
    exact (sends_redirected_iff (hsendable order horder) hne).mpr (hplain order horder)
  have hnodup := orders_nodup commands outputDir modulesPath
  exact {
    lines := ⟨_, hread, hsends⟩
    direct := fun order horder =>
      (orders_direct horder).imp fun name hname => ⟨fun hmem => (hname.1 _ hmem).2 rfl, hname.2⟩
    distinct := hnodup
    attributed := by
      intro output index h
      rw [hread]
      have hrun := run_sends output hsends hnodup exit_quiet 0 fun _ => none
      have hfile := hrun.1 _ _ (orders_getElem h)
      rwa [Nat.zero_add] at hfile
  }

/-- A framed script has as many lines as it should, so no line of it is broken. -/
theorem unbroken_of_framed {commands : List Text} {outputDir : Text} {modulesPath : Option Text}
    (h : Framed commands outputDir modulesPath (buildCommandScript commands outputDir modulesPath)) :
    ∀ order ∈ orders commands outputDir modulesPath, '\n' ∉ redirected order.1 order.2 := by
  obtain ⟨lines, hread, hsends⟩ := h.lines
  have hlength := congrArg List.length hread
  rw [buildCommandScript, scriptLines_eq, Lines.length_read_terminated (by simp),
    List.map_append, List.sum_append, List.length_append, List.length_append,
    hsends.length_eq, sentLines, List.length_map] at hlength
  intro order horder
  have hsum : (((orders commands outputDir modulesPath).map fun order =>
      redirected order.1 order.2).map (List.count '\n')).sum = 0 := by omega
  have hzero := List.sum_eq_zero_iff_forall_eq_nat.mp hsum
  exact List.count_eq_zero.mp (hzero _ (List.mem_map_of_mem (List.mem_map_of_mem horder)))

theorem sends_of_framed {commands : List Text} {outputDir : Text} {modulesPath : Option Text}
    (h : Framed commands outputDir modulesPath (buildCommandScript commands outputDir modulesPath)) :
    ∀ order ∈ orders commands outputDir modulesPath, Sends (redirected order.1 order.2) order := by
  have hunbroken := unbroken_of_framed h
  obtain ⟨lines, hread, hsends⟩ := h.lines
  rw [buildCommandScript, scriptLines_eq, Lines.read_terminated ?_ (by simp),
    List.append_left_inj] at hread
  · subst hread
    rwa [sentLines, List.forall₂_map_left_iff, List.forall₂_same] at hsends
  · intro line hline
    rcases List.mem_append.mp hline with hline | hline
    · obtain ⟨order, horder, rfl⟩ := List.mem_map.mp hline
      exact hunbroken order horder
    · rw [List.mem_singleton.mp hline]
      decide

/-- A framed script was written for a plain directory. -/
theorem plain_of_framed {commands : List Text} {outputDir : Text} {modulesPath : Option Text}
    (hcommands : ∀ command ∈ commands, Sendable command) (hne : commands ≠ [])
    (h : Framed commands outputDir modulesPath (buildCommandScript commands outputDir modulesPath)) :
    PlainDir outputDir := by
  have hlength := List.length_pos_iff.mpr hne
  have hsends := sends_of_framed h _ (List.mem_of_getElem? (orders_getElem hlength))
  have hcommand := hcommands _ (List.getElem_mem hlength)
  exact plain_of_inDir ((sends_redirected_iff hcommand (by simp [inDir])).mp hsends)

/-- A framed script was written for a path that breaks no line. -/
theorem unbroken_modules_of_framed {commands : List Text} {outputDir : Text}
    {modulesPath : Option Text}
    (h : Framed commands outputDir modulesPath (buildCommandScript commands outputDir modulesPath)) :
    Unbroken modulesPath := by
  intro path hpath hend
  have horder : ("mod -S ".toList ++ path, inDir outputDir MOD_LOAD_FILENAME) ∈
      orders commands outputDir modulesPath :=
    List.mem_append_left _ (List.mem_map_of_mem (Option.mem_toList.mpr hpath))
  have hnot := unbroken_of_framed h _ horder
  rw [newline_redirected, not_or] at hnot
  exact hnot.1 (List.mem_append_right _ (List.mem_of_getLast? hend))

/-- The directory of a call is plain if the directory of its run is. -/
theorem plain_sensitiveCallDir {runDir : Text} {callId : CallId} :
    PlainDir (sensitiveCallDir runDir callId) ↔ PlainDir runDir := by
  have hname : ∀ c ∈ "sensitive/debug/postmortem/crash/".toList ++ callId.text,
      isPathChar c = true := by
    intro c hc
    rcases List.mem_append.mp hc with hc | hc
    · have hall : ∀ c ∈ "sensitive/debug/postmortem/crash/".toList, isPathChar c = true :=
        List.all_iff_forall_prop.mp (by decide)
      exact hall c hc
    · exact isPathChar_of_isHexDigit (callId.hex c hc)
  exact ⟨plain_of_inDir, fun h => plain_inDir h hname⟩

/-- `_prepare_crash_call_workspace`, the script of a checked batch. -/
def commandScript (commands : List Text) (runDir : Text) (callId : CallId)
    (modulesPath : Option Text) : Text :=
  buildCommandScript (commands.map strip) (sensitiveCallDir runDir callId) modulesPath

/-- The script of a checked batch is framed exactly if the directory of the run is plain and the
path of the modules does not end in a newline. -/
theorem script_framed_iff {py : Interpreter} {commands : List Text} {runDir : Text}
    {callId : CallId} {modulesPath : Option Text}
    (hcommands : validateCrashCommands py commands = none)
    (hmodules : ∀ path ∈ modulesPath, validateModulesPath path = true) :
    Framed (commands.map strip) (sensitiveCallDir runDir callId) modulesPath
        (commandScript commands runDir callId modulesPath) ↔
      PlainDir runDir ∧ Unbroken modulesPath := by
  obtain ⟨hne, -, haccepted⟩ := accepted_of_validate hcommands
  have hsendable : ∀ command ∈ commands.map strip, Sendable command := by
    intro command hcommand
    obtain ⟨raw, -, rfl⟩ := List.mem_map.mp hcommand
    exact sendable_of_accepted (haccepted _ hcommand)
  have hplain : PlainDir (sensitiveCallDir runDir callId) ↔ PlainDir runDir := plain_sensitiveCallDir
  rw [commandScript, ← hplain]
  constructor
  · intro h
    exact ⟨plain_of_framed hsendable (by simpa using hne) h, unbroken_modules_of_framed h⟩
  · rintro ⟨hdir, hunbroken⟩
    exact framed_of_plain hsendable hmodules hdir hunbroken

/-- An interpreter whose characters beyond ASCII have no other case. -/
def asciiInterpreter : Interpreter where
  lower text := text.map Char.toLower
  repr text := '\'' :: text ++ ['\'']

def someCall : CallId where
  text := List.replicate 32 'a'
  digits := rfl
  hex := List.all_iff_forall_prop.mp (by decide)

theorem script_framed_plain :
    Framed ["bt".toList, "log".toList] (sensitiveCallDir "/runs/r1".toList someCall)
      (some "/runs/r1/mods".toList)
      (commandScript [" bt".toList, "log ".toList] "/runs/r1".toList someCall
        (some "/runs/r1/mods".toList)) := by
  have hplain : PlainDir "/runs/r1".toList :=
    ⟨List.all_iff_forall_prop.mp (by decide), by decide⟩
  have hunbroken : Unbroken (some "/runs/r1/mods".toList) := by
    intro path hpath
    cases hpath
    decide
  have hcommands : validateCrashCommands asciiInterpreter [" bt".toList, "log ".toList] = none := by
    decide
  exact (script_framed_iff hcommands (by decide)).mpr ⟨hplain, hunbroken⟩

/-- A path that ends in a newline is accepted, and the redirection of its line stands on a line
of its own. -/
theorem script_broken :
    validateCrashCommands asciiInterpreter ["bt".toList] = none ∧
      validateModulesPath "/runs/r1/mods\n".toList = true ∧
      ¬ Framed ["bt".toList] (sensitiveCallDir "/runs/r1".toList someCall)
        (some "/runs/r1/mods\n".toList)
        (commandScript ["bt".toList] "/runs/r1".toList someCall
          (some "/runs/r1/mods\n".toList)) := by
  refine ⟨by decide, by decide, fun h => ?_⟩
  obtain ⟨lines, hread, hsends⟩ := h.lines
  have hlength := congrArg List.length hread
  rw [List.length_append, hsends.length_eq] at hlength
  revert hlength
  decide +kernel

end Kdive.Crash

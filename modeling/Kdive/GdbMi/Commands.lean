import Mathlib.Data.Char
import Mathlib.Data.List.Lex
import Mathlib.Data.List.Sort
import Kdive.Safety.SecretRegistry

/-!
# The commands of the gdb/MI engine

Each engine operation checks its arguments and builds the lines it writes to gdb.  An
argument that fails its check is refused before anything is written.

*Anchored patterns*.  The checks are `re.match` of `^…$`, and `$` also stands before a
newline that ends the text (`matchesLine`).

*Paths*.  The path of a module object is refused if it has a blank or a double quote,
and goes into a console command inside a C string.  The path of `vmlinux` is absolute
(it was resolved), and its blanks and backslashes are escaped.
-/

namespace Kdive.GdbMi

/-! ## Argument validators -/

/-- `[A-Za-z]`. -/
def isLetter (c : Char) : Bool := ('a' ≤ c && c ≤ 'z') || ('A' ≤ c && c ≤ 'Z')

/-- `[0-9]`. -/
def isDigit (c : Char) : Bool := '0' ≤ c && c ≤ '9'

/-- `[0-9a-fA-F]`. -/
def isHexDigit (c : Char) : Bool :=
  isDigit c || ('a' ≤ c && c ≤ 'f') || ('A' ≤ c && c ≤ 'F')

/-- `[A-Za-z0-9_]`. -/
def isWord (c : Char) : Bool := isLetter c || isDigit c || c = '_'

/-- `[A-Za-z_][A-Za-z0-9_]*`. -/
def isSymbolName : Text → Bool
  | [] => false
  | c :: rest => (isLetter c || c = '_') && rest.all isWord

/-- `[A-Za-z][A-Za-z0-9_]*`. -/
def isRegister : Text → Bool
  | [] => false
  | c :: rest => isLetter c && rest.all isWord

/-- `[0-9]+`. -/
def isBreakId (text : Text) : Bool := !text.isEmpty && text.all isDigit

/-- `0x[0-9a-fA-F]+`. -/
def isHexAddress : Text → Bool
  | '0' :: 'x' :: rest => !rest.isEmpty && rest.all isHexDigit
  | _ => false

/-- `\.[A-Za-z0-9_.]+`. -/
def isSectionName : Text → Bool
  | '.' :: rest => !rest.isEmpty && rest.all fun c => isWord c || c = '.'
  | _ => false

/-- `re.match` of a pattern between `^` and `$`. -/
def matchesLine (pattern : Text → Bool) (text : Text) : Bool :=
  pattern text || (text.getLast? = some '\n' && pattern text.dropLast)

/-- `GdbMiError` of category `configuration_error`.  A message with a subject ends in
its `repr`. -/
structure Refusal where
  message : String
  subject : Option Text
  details : List (String × Text)
deriving DecidableEq

/-- Refuse a text that does not match. -/
def check (pattern : Text → Bool) (text : Text) (message : String)
    (details : List (String × Text)) : Except Refusal Unit :=
  if matchesLine pattern text then .ok () else .error ⟨message, some text, details⟩

/-! ## Arguments -/

/-- A `dict` of section names and addresses. -/
structure Sections where
  entries : List (Text × Text)
  nodup : (entries.map Prod.fst).Nodup

/-- `str` of a path, which is never empty. -/
structure PathText where
  text : Text
  filled : text ≠ []

/-- `str` of a resolved path. -/
structure ResolvedPath where
  text : Text
  absolute : text.head? = some '/'

/-- `_MODULE_TEXT_SECTION`. -/
def MODULE_TEXT_SECTION : Text := ".text".toList

/-- `CANONICAL_PROBE_SYMBOL`. -/
def CANONICAL_PROBE_SYMBOL : Text := "linux_banner".toList

/-- `MAX_MEMORY_READ_BYTES`. -/
def MAX_MEMORY_READ_BYTES : Nat := 4096

/-- `f"0x{n:x}"`. -/
def hexText (n : Nat) : Text := '0' :: 'x' :: Nat.toDigits 16 n

/-- `f"{n}"`. -/
def decimalText (n : Nat) : Text := Nat.toDigits 10 n

/-! ## Operations -/

/-- `f'-data-evaluate-expression "{expression}"'`. -/
def evaluateLine (expression : Text) : Text :=
  "-data-evaluate-expression \"".toList ++ expression ++ ['"']

/-- `resolve_symbol`. -/
def resolveSymbol (symbol : Text) : Except Refusal (List Text) := do
  check isSymbolName symbol "symbol name must be a bare C identifier, got " [("symbol", symbol)]
  return [evaluateLine ('&' :: symbol)]

/-- `read_symbol`. -/
def readSymbol (symbol : Text) : Except Refusal (List Text) := do
  check isSymbolName symbol "symbol name must be a bare C identifier, got " [("symbol", symbol)]
  return [evaluateLine symbol]

/-- `evaluate_inspector`, with the `symbol` of the arguments if it is a string. -/
def evaluateInspector (inspector : Text) (symbol : Option Text) : Except Refusal (List Text) :=
  if inspector = "kernel_version".toList then .ok [evaluateLine CANONICAL_PROBE_SYMBOL]
  else if inspector = "symbol_address".toList then
    match symbol with
    | some symbol =>
        if matchesLine isSymbolName symbol then resolveSymbol symbol
        else .error ⟨"symbol_address requires a bare C identifier 'symbol'", none, []⟩
    | none => .error ⟨"symbol_address requires a bare C identifier 'symbol'", none, []⟩
  else .error ⟨"unknown debug inspector", none, [("inspector", inspector)]⟩

/-- `set_breakpoint`. -/
def setBreakpoint (location : Text) : Except Refusal (List Text) := do
  check isSymbolName location "breakpoint location must be a bare C identifier, got "
    [("location", location)]
  return ["-break-insert -h ".toList ++ location]

/-- `set_watchpoint`. -/
def setWatchpoint (expression : Text) : Except Refusal (List Text) := do
  check isSymbolName expression "watchpoint expression must be a bare C identifier, got "
    [("expression", expression)]
  return ["-break-watch ".toList ++ expression]

/-- `clear_breakpoint` and `clear_watchpoint`. -/
def clearBreakpoint (number : Text) : Except Refusal (List Text) := do
  check isBreakId number "breakpoint id must be numeric, got " [("number", number)]
  return ["-break-delete ".toList ++ number]

/-- `read_memory`. -/
def readMemory (address byteCount : Int) : Except Refusal (List Text) :=
  if address < 0 ∨ address > 0xFFFFFFFFFFFFFFFF then .error ⟨"address out of range", none, []⟩
  else if byteCount < 1 ∨ byteCount > MAX_MEMORY_READ_BYTES then
    .error ⟨"byte_count must be between 1 and 4096", none, []⟩
  else
    .ok ["-data-read-memory-bytes ".toList ++ hexText address.toNat ++ ' ' ::
      decimalText byteCount.toNat]

/-- `read_registers`.  The names are looked up in the answers and never written. -/
def readRegisters (names : List Text) : Except Refusal (List Text) :=
  if names.isEmpty then .error ⟨"registers must be a non-empty list", none, []⟩
  else
    match names.find? fun name => !matchesLine isRegister name with
    | some name => .error ⟨"invalid register name ", some name, []⟩
    | none => .ok ["-data-list-register-names".toList, "-data-list-register-values x".toList]

/-- `_console_ko`. -/
def consoleKo (ko : PathText) : Except Refusal Text :=
  if ko.text.any fun c => c = ' ' || c = '\t' || c = '\r' || c = '\n' || c = '"' then
    .error ⟨"module object path must not contain whitespace or quotes", none,
      [("ko_path", ko.text)]⟩
  else .ok ko.text

/-- `sections[section]`. -/
def Sections.address (sections : Sections) (section_ : Text) : Text :=
  (sections.entries.lookup section_).getD []

/-- The names of `sorted(sections)` other than `.text`. -/
def Sections.others (sections : Sections) : List Text :=
  ((sections.entries.map Prod.fst).insertionSort (· ≤ ·)).filter (· ≠ MODULE_TEXT_SECTION)

/-- `f" -s {section} {sections[section]}"` for each of them. -/
def Sections.extra (sections : Sections) : Text :=
  sections.others.flatMap fun section_ =>
    " -s ".toList ++ section_ ++ ' ' :: sections.address section_

/-- `load_module_symbols`, of the module `name`. -/
def loadModuleSymbols (name : Text) (ko : PathText) (sections : Sections) :
    Except Refusal (List Text) := do
  if MODULE_TEXT_SECTION ∉ sections.entries.map Prod.fst then
    throw ⟨"module symbol load requires a .text section address", none, [("module", name)]⟩
  match sections.entries.find? fun entry =>
      !matchesLine isSectionName entry.1 || !matchesLine isHexAddress entry.2 with
  | some entry =>
      throw ⟨"module section/address must be a valid ELF section + 0x-hex address, got " ++
        String.ofList entry.1 ++ "=", some entry.2, [("module", name), ("section", entry.1)]⟩
  | none =>
      let ko ← consoleKo ko
      return ["-interpreter-exec console \"add-symbol-file ".toList ++ ko ++ ' ' ::
        sections.address MODULE_TEXT_SECTION ++ sections.extra ++ ['"']]

/-- `text.replace("\\", "\\\\").replace(" ", "\\ ")`. -/
def escapePath (text : Text) : Text :=
  text.flatMap fun c => if c = '\\' then ['\\', '\\'] else if c = ' ' then ['\\', ' '] else [c]

/-- `_mi_path`. -/
def miPath (path : ResolvedPath) : Except Refusal Text :=
  if path.text.any fun c => c = '\t' || c = '\r' || c = '\n' then
    .error ⟨"vmlinux path must not contain control whitespace", none, []⟩
  else .ok (escapePath path.text)

/-- The command of `attach` that loads the symbols of the kernel. -/
def loadVmlinux (path : ResolvedPath) : Except Refusal (List Text) := do
  let text ← miPath path
  return ["-file-exec-and-symbols ".toList ++ text]

/-- A call of an engine operation that takes arguments. -/
inductive Request where
  | resolveSymbol (symbol : Text)
  | readSymbol (symbol : Text)
  | evaluateInspector (inspector : Text) (symbol : Option Text)
  | setBreakpoint (location : Text)
  | setWatchpoint (expression : Text)
  | clearBreakpoint (number : Text)
  | readMemory (address byteCount : Int)
  | readRegisters (names : List Text)
  | loadModuleSymbols (name : Text) (ko : PathText) (sections : Sections)
  | loadVmlinux (path : ResolvedPath)

/-- The lines a call writes, one after the other while gdb answers. -/
def commands : Request → Except Refusal (List Text)
  | .resolveSymbol symbol => resolveSymbol symbol
  | .readSymbol symbol => readSymbol symbol
  | .evaluateInspector inspector symbol => evaluateInspector inspector symbol
  | .setBreakpoint location => setBreakpoint location
  | .setWatchpoint expression => setWatchpoint expression
  | .clearBreakpoint number => clearBreakpoint number
  | .readMemory address byteCount => readMemory address byteCount
  | .readRegisters names => readRegisters names
  | .loadModuleSymbols name ko sections => loadModuleSymbols name ko sections
  | .loadVmlinux path => loadVmlinux path

example : commands (.readMemory 4096 16) = .ok ["-data-read-memory-bytes 0x1000 16".toList] := by
  decide

end Kdive.GdbMi

import Mathlib.Data.Rat.Floor
import Kdive.Lib.PythonInt
import Kdive.GdbMi.Commands
import Kdive.GdbMi.Link

/-!
# The operations of the gdb/MI engine

Every operation as a program over the calls of an attachment.  What an operation checks
before it writes, and the lines it writes, is in `Commands`.  Here is what it makes of
the answers.

`attach` starts where the controller has been started: the checks of the endpoint, the
gdb tool and the file come before there is a link.
-/

namespace Kdive.GdbMi

open Program

/-! ## Reading payloads -/

/-- `payload.get(key)` if the payload is a mapping. -/
def field (payload : Option (Value Text)) (key : String) : Option (Value Text) :=
  match payload with
  | some (.mapping items) => items.lookup (.str key.toList)
  | _ => none

/-- The value if it is a string. -/
def asText : Option (Value Text) → Option Text
  | some (.str text) => some text
  | _ => none

/-- The items if it is a list, and none otherwise. -/
def asList : Option (Value Text) → List (Value Text)
  | some (.list items) => items
  | _ => []

/-- A string or `None`. -/
def ofText : Option Text → Value Text
  | some text => .str text
  | none => .scalar .none

/-- `{key: value, …}`. -/
def dict (items : List (String × Value Text)) : Value Text :=
  .mapping (items.map fun item => (.str item.1.toList, item.2))

/-- A `debug_attach_failure`. -/
def attachFailure (message : String) (subject : Option Text) : Fault :=
  .mi ⟨message, .debugAttachFailure, none, subject, none, none⟩

/-- A refused argument as an error. -/
def Refusal.fault (refusal : Refusal) : Fault :=
  .mi ⟨refusal.message, .configurationError, none, refusal.subject, none, none⟩

/-- Go on with what a check returns. -/
def accepted {α : Type} : Except Refusal α → Mi α
  | .ok a => .ret a
  | .error refusal => .raise refusal.fault

section Operations

variable (redactor : Redactor)

/-! ## Attaching -/

/-- `_as_attach_failure`. -/
def asAttachFailure (error : GdbMiError) : GdbMiError :=
  if error.category = .debugAttachFailure ∧ error.code ≠ some "transport_stall" then error
  else { error with category := .debugAttachFailure, code := none }

/-- The attempts of `_connect_with_retry` that are left. -/
def connectAttempts (line : Text) : Nat → Mi Unit
  | 0 => .raise (attachFailure "gdb/MI RSP connect failed" none)
  | attempts + 1 => do
      match ← (runCommand redactor line).attempt with
      | .ok _ => return ()
      | .error (.mi error) =>
          if attempts = 0 then .raise (.mi (asAttachFailure error))
          else
            Prog.perform Op.sleep
            connectAttempts line attempts
      | .error .other => .raise .other

/-- `_CONNECT_RETRY_COUNT`. -/
def CONNECT_RETRY_COUNT : Nat := 3

/-- `_connect_with_retry`. -/
def connectWithRetry (host port : Text) : Mi Unit :=
  connectAttempts redactor ("-target-select remote ".toList ++ host ++ ':' :: port)
    CONNECT_RETRY_COUNT

/-- `attach`. -/
def attach (vmlinux : ResolvedPath) (host port : Text) : Mi Unit :=
  Prog.rescue
    (do
      let _ ← runCommand redactor "-gdb-set confirm off".toList
      let _ ← runCommand redactor "-gdb-set pagination off".toList
      let _ ← runCommand redactor "-gdb-set mi-async on".toList
      let path ← accepted (miPath vmlinux)
      let _ ← runCommand redactor ("-file-exec-and-symbols ".toList ++ path)
      let _ ← runCommand redactor "-gdb-set remotetimeout 30".toList
      connectWithRetry redactor host port)
    fun
      | .mi error => do
          Prog.suppress (Prog.perform Op.exit)
          .raise (.mi (asAttachFailure error))
      | .other => .raise .other

/-! ## Symbols, registers and memory -/

/-- The value of an expression, if the answer has one. -/
def valueOf (line : Text) (missing : Fault) : Mi Text := do
  let payload ← query redactor line
  match asText (field payload "value") with
  | some value => return value
  | none => .raise missing

/-- `resolve_symbol`. -/
def resolveSymbolOp (symbol : Text) : Mi Text := do
  let _ ← accepted (resolveSymbol symbol)
  valueOf redactor (evaluateLine ('&' :: symbol))
    (attachFailure "gdb/MI returned no value resolving symbol " (some symbol))

/-- `_evaluate_expression`. -/
def evaluateExpression (expression : Text) : Mi Text :=
  valueOf redactor (evaluateLine expression)
    (attachFailure "gdb/MI returned no value" (some ('"' :: (expression ++ ['"']))))

/-- `read_symbol`. -/
def readSymbolOp (symbol : Text) : Mi (Value Text) := do
  let _ ← accepted (readSymbol symbol)
  let value ← evaluateExpression redactor symbol
  return redactor.redactValue (dict [("symbol", .str symbol), ("value", .str value)])

/-- `evaluate_inspector`. -/
def evaluateInspectorOp (inspector : Text) (symbol : Option Text) : Mi (Value Text) := do
  let _ ← accepted (evaluateInspector inspector symbol)
  if inspector = "kernel_version".toList then
    let value ← evaluateExpression redactor CANONICAL_PROBE_SYMBOL
    return redactor.redactValue (dict [("inspector", .str inspector), ("kernel_version", .str value)])
  else
    let name := symbol.getD []
    let value ← resolveSymbolOp redactor name
    return redactor.redactValue (dict [("inspector", .str inspector), ("symbol", .str name),
      ("address", .str value)])

/-- `read_memory`. -/
def readMemoryOp (address byteCount : Int) : Mi (Value Text) := do
  let _ ← accepted (readMemory address byteCount)
  let payload ← query redactor ("-data-read-memory-bytes ".toList ++ hexText address.toNat ++
    ' ' :: decimalText byteCount.toNat)
  return redactor.redactValue (dict [("address", .str (hexText address.toNat)),
    ("byte_count", .scalar (.int byteCount)),
    ("memory", (field payload "memory").getD (.list []))])

mutual

/-- A value that may be a key of a `dict`. -/
def hashable : Value Text → Bool
  | .str _ | .scalar _ => true
  | .mapping _ | .list _ => false
  | .tuple items => hashableAll items

/-- The items of a tuple. -/
def hashableAll : List (Value Text) → Bool
  | [] => true
  | item :: items => hashable item && hashableAll items

end

/-- The rows `number` and `value` of the registers. -/
def registerRow (row : Value Text) : Option (Value Text × Value Text) :=
  match row with
  | .mapping items => some ((items.lookup (.str "number".toList)).getD (.scalar .none),
      (items.lookup (.str "value".toList)).getD (.scalar .none))
  | _ => none

/-- `ordered_names.index(name)`, for the strings of the list. -/
def registerOrdinal (names : List (Value Text)) (name : Text) : Option Nat :=
  names.findIdx? fun item => asText (some item) = some name

/-- The value of the last row with this number. -/
def registerValue (rows : List (Value Text)) (number : Text) : Option (Value Text) :=
  ((rows.filterMap registerRow).reverse.find? fun row =>
    asText (some row.1) = some number).map Prod.snd

/-- Building `by_number`, which raises at a number that cannot be a key. -/
def hashNumbers (rows : List (Value Text)) : Except Fault Unit :=
  if (rows.filterMap registerRow).all fun row => hashable row.1 then .ok () else .error .other

/-- `read_registers`. -/
def readRegistersOp (names : List Text) : Mi (Value Text) := do
  let _ ← accepted (readRegisters names)
  let ordered ← query redactor "-data-list-register-names".toList
  let values ← query redactor "-data-list-register-values x".toList
  Prog.ofExcept (hashNumbers (asList (field values "register-values")))
  let registers := names.eraseDups.filterMap fun name =>
    (registerOrdinal (asList (field ordered "register-names")) name).bind fun ordinal =>
      (registerValue (asList (field values "register-values")) (decimalText ordinal)).map
        fun value => (Key.str name, value)
  return redactor.redactValue (dict [("registers", .mapping registers)])

/-- `load_module_symbols`. -/
def loadModuleSymbolsOp (name : Text) (ko : PathText) (sections : Sections) :
    Mi (Value Text) := do
  let lines ← accepted (loadModuleSymbols name ko sections)
  Prog.forEach lines fun line => Prog.void (runCommand redactor line)
  return redactor.redactValue (dict [("name", .str name),
    ("sections", .mapping (sections.entries.map fun entry => (.str entry.1, .str entry.2)))])

/-! ## Breakpoints -/

/-- `str(value)` of a breakpoint's number. -/
def numberText (shown : Value Text → Text) : Option (Value Text) → Text
  | some (.str text) => text
  | some value => shown value
  | none => "None".toList

/-- `_breakpoint_ref_from`. -/
def breakpointRefFrom (shown : Value Text → Text) (entry : Option (Value Text)) : Value Text :=
  redactor.redactValue (dict [("number", .str (numberText shown (field entry "number"))),
    ("type", ofText (asText (field entry "type"))),
    ("addr", ofText (asText (field entry "addr"))),
    ("func", ofText (asText (field entry "func"))),
    ("what", ofText (asText (field entry "what")))])

/-- `_breakpoint_ref` of a command's answer. -/
def breakpointRef (shown : Value Text → Text) (line : Text) (key : String) :
    Mi (Value Text) := do
  let payload ← query redactor line
  match field payload key with
  | some (.mapping items) => return breakpointRefFrom redactor shown (some (.mapping items))
  | _ => .raise (attachFailure "gdb/MI response had no breakpoint record" (some key.toList))

/-- `set_breakpoint`. -/
def setBreakpointOp (shown : Value Text → Text) (location : Text) : Mi (Value Text) := do
  let _ ← accepted (setBreakpoint location)
  breakpointRef redactor shown ("-break-insert -h ".toList ++ location) "bkpt"

/-- `set_watchpoint`. -/
def setWatchpointOp (shown : Value Text → Text) (expression : Text) : Mi (Value Text) := do
  let _ ← accepted (setWatchpoint expression)
  breakpointRef redactor shown ("-break-watch ".toList ++ expression) "wpt"

/-- `clear_breakpoint` and `clear_watchpoint`. -/
def clearBreakpointOp (number : Text) : Mi Unit := do
  let _ ← accepted (clearBreakpoint number)
  Prog.void (runCommand redactor ("-break-delete ".toList ++ number))

/-- `list_breakpoints`. -/
def listBreakpointsOp (shown : Value Text → Text) : Mi (Value Text) := do
  let payload ← query redactor "-break-list".toList
  let rows := asList (field (field payload "BreakpointTable") "body")
  return .list (rows.filterMap fun row =>
    match field (some row) "bkpt" with
    | some (.mapping items) => some (breakpointRefFrom redactor shown (some (.mapping items)))
    | _ => none)

/-! ## The stack -/

/-- `Frame`. -/
structure Frame where
  level : Option Int
  func : Option Text
  addr : Option Text
  file : Option Text
  line : Option Int
deriving DecidableEq

/-- `_int`.  Its test takes more than one dash, digits that are no decimals and any number
of digits, and makes `int` raise. -/
def intOf (value : Option (Value Text)) : Except Fault (Option Int) :=
  match asText value with
  | none => .ok none
  | some text =>
      if PythonInt.isdigit (text.dropWhile (· = '-')) then
        match PythonInt.int text with
        | some number => .ok (some number)
        | none => .error .other
      else .ok none

/-- `_frame_from`. -/
def frameFrom (payload : Option (Value Text)) : Except Fault Frame := do
  let level ← intOf (field payload "level")
  let line ← intOf (field payload "line")
  return ⟨level, asText (field payload "func"), asText (field payload "addr"),
    asText (field payload "file"), line⟩

/-- The frames of the rows that are mappings. -/
def framesFrom : List (Value Text) → Except Fault (List Frame)
  | [] => .ok []
  | .mapping items :: rows => do
      let wrapped := match items.lookup (.str "frame".toList) with
        | some (.mapping inner) => Value.mapping inner
        | _ => .mapping items
      let frame ← frameFrom (some (redactor.redactValue wrapped))
      let frames ← framesFrom rows
      return frame :: frames
  | _ :: rows => framesFrom rows

/-- `backtrace`. -/
def backtraceOp : Mi (List Frame) := do
  let payload ← query redactor "-stack-list-frames".toList
  Prog.ofExcept (framesFrom redactor (asList (field payload "stack")))

/-- `MAX_RESPONSE_SNIPPET`. -/
def MAX_RESPONSE_SNIPPET : Nat := 4096

/-- `list_variables`. -/
def listVariablesOp : Mi (Value Text) := do
  let payload ← query redactor "-stack-list-variables --all-values".toList
  return .list ((asList (field payload "variables")).filterMap fun row =>
    (asText (field (some row) "name")).map fun name =>
      redactor.redactValue (dict [("name", .str name),
        ("value", ofText ((asText (field (some row) "value")).map
          (·.take MAX_RESPONSE_SNIPPET)))]))

end Operations

end Kdive.GdbMi

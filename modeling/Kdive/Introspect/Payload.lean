import Kdive.Introspect.Wrapper
import Kdive.Lib.PythonJson
import Kdive.Safety.RedactValue
import Kdive.Safety.Snippets

/-!
# Payloads

What a wrapper prints is read as JSON into a value whose strings are those of the interpreter: a
surrogate can stand by itself.

*Surrogates.*  To the patterns of the redactor a surrogate is neither letter nor space, and no
secret contains one.  A key with a surrogate is not one of the names the host looks up.

*The interpreter.*  Floating point, the printed form of a list and the depth to which functions
recurse are left to the interpreter.
-/

namespace Kdive.Introspect

/-- What the interpreter brings. -/
structure Interpreter where
  /-- How deep `json.loads` recurses. -/
  loadsDepth : Nat
  parseFloat : Text → UInt64
  /-- `x * 100 >= n` -/
  percentAtLeast : UInt64 → Int → Bool
  /-- `str(x)` -/
  showFloat : UInt64 → Text
  /-- `str(items)` -/
  showList : List (Value PyText) → PyText
  /-- `redact_value` recurses to the bottom of the value. -/
  redactFits : Value PyText → Bool
  /-- `json.dumps` recurses to the bottom of the value. -/
  dumpsFits : Value PyText → Bool
  /-- `model_dump_json` writes the details of a step. -/
  modelDumps : List (String × Value PyText) → Bool

abbrev Payload := Value PyText

/-! ## Texts and values -/

/-- The character of a code point. -/
def PyChar.ofNat (n : Nat) : PyChar :=
  if h : 0xd800 ≤ n ∧ n < 0xe000 then .surrogate ⟨n - 0xd800, by omega⟩ else .char (Char.ofNat n)

/-- What the patterns of the redactor see. -/
def PyChar.shown : PyChar → Char
  | .char c => c
  | .surrogate _ => '\uffff'

def ofText (text : Text) : PyText := text.map .char

/-- A text of the host. -/
def host (s : String) : PyText := ofText s.toList

/-- A string of the host, as a value. -/
def hostStr (s : String) : Payload := .str (host s)

def hostInt (n : Int) : Payload := .scalar (.int n)

def hostBool (b : Bool) : Payload := .scalar (.bool b)

/-- `None`, or a string. -/
def hostStr? (s : Option String) : Payload := s.elim (.scalar .none) hostStr

/-- The key of a mapping. -/
def keyOf (units : List Nat) : Key :=
  let key := units.map PyChar.ofNat
  match text? key with
  | some text => .str text
  | none => .other (key.map PyChar.shown)

/-- How `json.loads` builds a payload. -/
def payloadBuilder (py : Interpreter) : PythonJson.Builder Payload where
  null := .scalar .none
  bool b := .scalar (.bool b)
  int n := .scalar (.int n)
  float text := .scalar (.float (py.parseFloat text))
  str units := .str (units.map PyChar.ofNat)
  list items := .list items
  dict d := .mapping (d.entries.map fun entry => (keyOf entry.1, entry.2))

/-- `json.loads` -/
def loads (py : Interpreter) (text : Text) : Except PythonJson.Fault Payload :=
  PythonJson.loads (payloadBuilder py) py.loadsDepth text

/-- `payload.get(name)`, of a mapping. -/
def getItem (name : String) (items : List (Key × Payload)) : Option Payload :=
  items.lookup (.str name.toList)

/-- The items, if it is a mapping. -/
def Payload.items : Payload → List (Key × Payload)
  | .mapping items => items
  | _ => []

/-- `outcome.status`, where `outcome` is a mapping. -/
def Payload.outcomeStatus (payload : Payload) : Option Payload :=
  match getItem "outcome" (Payload.items payload) with
  | some (.mapping outcome) => getItem "status" outcome
  | _ => none

/-- `bool(value)` -/
def Payload.truthy : Payload → Bool
  | .str text => !text.isEmpty
  | .scalar .none => false
  | .scalar (.bool b) => b
  | .scalar (.int n) => n ≠ 0
  | .scalar (.float bits) => bits &&& 0x7fffffffffffffff ≠ 0
  | .mapping items => !items.isEmpty
  | .list items | .tuple items => !items.isEmpty

/-! ## Redaction -/

/-- `redact_text`, of a string of the interpreter. -/
def redactPy (redactor : Redactor) (text : PyText) : PyText :=
  redactor.redactWith PyChar.shown (ofText REDACTION) text

/-- `redact_value` -/
def redactPayload (redactor : Redactor) (payload : Payload) : Payload :=
  redactValueWith (redactPy redactor) (ofText REDACTION) payload

/-- Redaction keeps a mapping a mapping, with its keys. -/
theorem redactPayload_mapping (redactor : Redactor) (items : List (Key × Payload)) :
    redactPayload redactor (.mapping items) =
      .mapping (redactItems (redactPy redactor) (ofText REDACTION) (sensitive items) items) := rfl

/-! ## Snippets -/

/-- The marker of `_head_tail`. -/
def cutMarker : Text := "\n…[truncated]…\n".toList

/-- `_head_tail(value, head=2048, tail=2048)`, of whatever stands in a payload.  What has no length
is a `TypeError`, and so is slicing a mapping. -/
def headTail? (py : Interpreter) : Payload → Option Payload
  | .str text =>
      some (.str (if text.length ≤ 4096 then text
        else text.take 2048 ++ ofText cutMarker ++ lastChars 2048 text))
  | .list items =>
      some (if items.length ≤ 4096 then .list items
        else .str (py.showList (items.take 2048) ++ ofText cutMarker ++
          py.showList (lastChars 2048 items)))
  | .tuple items =>
      some (if items.length ≤ 4096 then .tuple items
        else .str (py.showList (items.take 2048) ++ ofText cutMarker ++
          py.showList (lastChars 2048 items)))
  | .mapping items => if items.length ≤ 4096 then some (.mapping items) else none
  | .scalar _ => none

/-- `PRELUDE_WARNING_FRACTION_PCT` -/
def PRELUDE_WARNING_FRACTION_PCT : Int := 40

/-- `prelude_ms * 100 >= PRELUDE_WARNING_FRACTION_PCT * timeout_seconds * 1000`.  What is no number
is a `TypeError`. -/
def preludeHeavy? (py : Interpreter) (timeoutSeconds : Int) : Payload → Option Bool
  | .scalar (.int n) => some (n * 100 ≥ PRELUDE_WARNING_FRACTION_PCT * timeoutSeconds * 1000)
  | .scalar (.bool b) =>
      some ((if b then 100 else 0) ≥ PRELUDE_WARNING_FRACTION_PCT * timeoutSeconds * 1000)
  | .scalar (.float bits) =>
      some (py.percentAtLeast bits (PRELUDE_WARNING_FRACTION_PCT * timeoutSeconds * 1000))
  | _ => none

/-- `f"{prelude_ms}"`, of a number. -/
def showNumber (py : Interpreter) : Payload → Text
  | .scalar (.int n) => (toString n).toList
  | .scalar (.bool b) => (if b then "True" else "False").toList
  | .scalar (.float bits) => py.showFloat bits
  | _ => []

/-- A value that `model_dump_json` can always write: a scalar, a text without surrogates, or a list
of these. -/
def Payload.Plain : Payload → Prop
  | .scalar _ => True
  | .str text => text? text ≠ none
  | .list items => ∀ item ∈ items, match item with
      | .str text => text? text ≠ none
      | _ => False
  | _ => False

end Kdive.Introspect

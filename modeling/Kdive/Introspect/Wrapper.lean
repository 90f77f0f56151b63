import Kdive.GdbMi.Commands
import Kdive.Introspect.WrapperText
import Kdive.Lib.Base64
import Kdive.Lib.Checked
import Kdive.Lib.Dict
import Kdive.Lib.Utf8

/-!
# Rendering the wrappers

A script goes to the target inside a wrapper, a program that is rendered from a template.  The
script, the arguments and the paths are written in Base64, the identifiers are checked against a
pattern and written as they are, and the caps are written as JSON.

*Literals.*  `Embedded` says what a wrapper is for: as tokens of Python it is the template, with
one literal for each value, and what the literals hold are the values of the request.

*Patterns.*  `$` also matches before a newline at the end of a text.  `embedded_iff` says that such
identifiers are all that goes wrong.
-/

namespace Kdive.Introspect

open PythonTokens Dictionary Checked

/-! ## Texts of the interpreter -/

/-- A character of a `str`.  A surrogate can stand by itself. -/
inductive PyChar where
  | char (c : Char)
  | surrogate (n : Fin 2048)
deriving DecidableEq

abbrev PyText := List PyChar

def PyChar.char? : PyChar → Option Char
  | .char c => some c
  | .surrogate _ => none

/-- The text of a `str`, if it has no lone surrogate. -/
def text? (s : PyText) : Option Text := s.mapM PyChar.char?

/-- Why a wrapper is not rendered. -/
inductive RenderError where
  | wrapperRenderError (message : Text)
  /-- `UnicodeEncodeError` -/
  | unicodeEncode
  /-- `ValueError`: a number has too many digits. -/
  | tooManyDigits
  /-- Another error of `json.loads`. -/
  | loadsRaised (message : Text)

/-- What `json.loads` raises. -/
inductive LoadsError where
  | decode (message : Text)
  | other (message : Text)

/-- `json.loads` and `repr`, of the interpreter. -/
structure Python (V : Type) where
  loads : PyText → Except LoadsError V
  repr : PyText → Text

/-- `text.encode("utf-8")`, in Base64. -/
def encodeB64 (s : PyText) : Except RenderError Text :=
  match text? s with
  | some text => .ok (Base64.encode (Utf8.encode text))
  | none => .error .unicodeEncode

/-- `b64decode(text).decode("utf-8")` -/
def decodeB64 (text : Text) : Option Text := (Base64.decode text).bind Utf8.decodeStrict

/-! ## Checks -/

/-- `[0-9a-f]` -/
def isLowerHex (c : Char) : Bool := ('0' ≤ c && c ≤ '9') || ('a' ≤ c && c ≤ 'f')

/-- What stands before `$`. -/
def beforeEnd (text : Text) : Text :=
  if text.getLast? = some '\n' then text.dropLast else text

/-- `^[0-9a-f]{…}$` matches.  A newline may stand at the end. -/
def matchHex (count : Nat → Bool) (s : PyText) : Option Text :=
  (text? s).filter fun text => count (beforeEnd text).length && (beforeEnd text).all isLowerHex

/-- `BUILD_ID_RE` -/
def matchBuildId (s : PyText) : Option Text := matchHex (fun n => 8 ≤ n) s

/-- `_CALL_ID_RE` -/
def matchCallId (s : PyText) : Option Text := matchHex (fun n => n = 32) s

/-- A value of a cap that was asked for. -/
inductive CapValue where
  | int (n : Int)
  | other (shown : Text)
deriving DecidableEq

def CapValue.shown : CapValue → Text
  | .int n => (toString n).toList
  | .other shown => shown

/-- The number of a cap, if it is a positive `int`. -/
def CapValue.positive? : CapValue → Option Nat
  | .int n => if 0 < n then some n.toNat else none
  | .other _ => none

/-- `RUNNER_DEFAULT_CAPS` -/
def RUNNER_DEFAULT_CAPS : List (Text × Nat) :=
  [("emits".toList, 100), ("user_stdout".toList, 256 * 1024), ("traceback".toList, 16 * 1024),
    ("total_json".toList, 1 * 1024 * 1024), ("per_emit_bytes".toList, 32 * 1024),
    ("error_message".toList, 4096)]

/-- `merged[key] = value`, for a key that is there. -/
def setCap (key : Text) (value : Nat) (caps : List (Text × Nat)) : List (Text × Nat) :=
  caps.map fun cap => if cap.1 = key then (key, value) else cap

/-- The loop of `_merge_and_validate_caps`. -/
def mergeCaps (repr : PyText → Text) : List (Text × CapValue) → List (Text × Nat) →
    Except RenderError (List (Text × Nat))
  | [], merged => .ok merged
  | (key, value) :: caps, merged => do
      refuse (key ∉ RUNNER_DEFAULT_CAPS.map Prod.fst) (.wrapperRenderError
        ("unknown cap key ".toList ++ repr (key.map .char) ++ "; allowed: ".toList ++
          ("['emits', 'error_message', 'per_emit_bytes', 'total_json', 'traceback', " ++
            "'user_stdout']").toList))
      let n ← require value.positive? (.wrapperRenderError
        ("cap ".toList ++ repr (key.map .char) ++ " must be a positive int; got ".toList ++
          value.shown))
      mergeCaps repr caps (setCap key n merged)

/-- `_merge_and_validate_caps` -/
def mergeAndValidateCaps (repr : PyText → Text) (caps : Dict Text CapValue) :
    Except RenderError (List (Text × Nat)) := mergeCaps repr caps.entries RUNNER_DEFAULT_CAPS

/-- `_validate_args_json` -/
def validateArgsJson {V : Type} (py : Python V) (argsJson : PyText) : Except RenderError V :=
  (py.loads argsJson).mapError fun
    | .decode message => .wrapperRenderError
        ("args_json must be valid JSON; got ".toList ++ py.repr argsJson ++ ": ".toList ++ message)
    | .other message => .loadsRaised message

/-! ## JSON -/

/-- An item of an object. -/
def dumpItem (item : Text × Nat) : Text :=
  '"' :: item.1 ++ '"' :: ':' :: ' ' :: GdbMi.decimalText item.2

/-- The items of an object, separated. -/
def dumpItems : List (Text × Nat) → Text
  | [] => []
  | [item] => dumpItem item
  | item :: items => dumpItem item ++ ',' :: ' ' :: dumpItems items

/-- The digits of a number that is written. -/
def MAX_STR_DIGITS : Nat := 4300

/-- `json.dumps` of the caps. -/
def dumpCaps (caps : List (Text × Nat)) : Except RenderError Text :=
  if caps.all fun cap => (GdbMi.decimalText cap.2).length ≤ MAX_STR_DIGITS then
    .ok ('{' :: dumpItems caps ++ ['}'])
  else .error .tooManyDigits

/-! ## Requests -/

/-- What every wrapper is rendered from. -/
structure WrapperRequest where
  userScript : PyText
  expectedBuildId : PyText
  callId : PyText
  argsJson : PyText
  caps : Dict Text CapValue

/-- The paths of a vmcore wrapper. -/
structure CorePaths where
  vmcorePath : PyText
  vmlinuxPath : PyText
  modulesPath : Option PyText

/-- Which wrapper. -/
inductive WrapperKind where
  | live (allowWrite : Bool)
  | vmcore (paths : CorePaths)

/-- `_allow_write_setup` -/
def allowWriteSetup (allowWrite : Bool) : Text :=
  if allowWrite then ALLOW_WRITE_SETUP_PLAIN else ALLOW_WRITE_SETUP_GUARDED

/-- `_encode_path` -/
def encodePath (field : String) (value : Option PyText) : Except RenderError Text := do
  let text := value.getD []
  refuse (PyChar.char '\x00' ∈ text) (.wrapperRenderError
    (field.toList ++ " contains a NUL byte".toList))
  (encodeB64 text).mapError fun _ => .wrapperRenderError
    (field.toList ++ " is not valid UTF-8".toList)

/-- The text of a piece. -/
def Part.render (values : Field → Text) : Part → Text
  | .text lines => joinLines lines
  | .quoted field => '"' :: values field ++ ['"']
  | .raw field => values field

/-- `Template.substitute` -/
def substitute (template : List Part) (values : Field → Text) : Text :=
  template.flatMap (Part.render values)

/-- The template of a wrapper. -/
def WrapperKind.template : WrapperKind → List Part
  | .live _ => WRAPPER_TEMPLATE
  | .vmcore _ => VMCORE_WRAPPER_TEMPLATE

/-- What stands at the placeholders. -/
structure Values where
  capsJson : Text
  callId : Text
  allowWriteSetup : Text
  expectedBuildId : Text
  argsB64 : Text
  userScriptB64 : Text
  vmcorePathB64 : Text
  vmlinuxPathB64 : Text
  modulesPathB64 : Text

def Values.get (values : Values) : Field → Text
  | .capsJson => values.capsJson
  | .callId => values.callId
  | .allowWriteSetup => values.allowWriteSetup
  | .expectedBuildId => values.expectedBuildId
  | .argsB64 => values.argsB64
  | .userScriptB64 => values.userScriptB64
  | .vmcorePathB64 => values.vmcorePathB64
  | .vmlinuxPathB64 => values.vmlinuxPathB64
  | .modulesPathB64 => values.modulesPathB64

/-- The values of the placeholders that only one of the wrappers has. -/
def WrapperKind.values (kind : WrapperKind) (values : Values) : Except RenderError Values :=
  match kind with
  | .live allowWrite => return { values with allowWriteSetup := Introspect.allowWriteSetup allowWrite }
  | .vmcore paths => do
      let vmcore ← encodePath "vmcore_path" (some paths.vmcorePath)
      let vmlinux ← encodePath "vmlinux_path" (some paths.vmlinuxPath)
      let modules ← encodePath "modules_path" paths.modulesPath
      return { values with vmcorePathB64 := vmcore, vmlinuxPathB64 := vmlinux, modulesPathB64 := modules }

variable {V : Type}

/-- `render_wrapper` and `render_vmcore_wrapper`. -/
def renderValues (py : Python V) (request : WrapperRequest) (kind : WrapperKind) :
    Except RenderError Values := do
  let buildId ← require (matchBuildId request.expectedBuildId) (.wrapperRenderError
    ("expected_build_id must match ^[0-9a-f]\x7b8,\x7d$; got ".toList ++
      py.repr request.expectedBuildId))
  let callId ← require (matchCallId request.callId) (.wrapperRenderError
    ("call_id must match ^[0-9a-f]\x7b32\x7d$; got ".toList ++ py.repr request.callId))
  let merged ← mergeAndValidateCaps py.repr request.caps
  let _ ← validateArgsJson py request.argsJson
  let script ← encodeB64 request.userScript
  let args ← encodeB64 request.argsJson
  let capsJson ← dumpCaps merged
  kind.values ⟨capsJson, callId, [], buildId, args, script, [], [], []⟩

/-- The text of a wrapper. -/
def renderWrapper (py : Python V) (request : WrapperRequest) (kind : WrapperKind) :
    Except RenderError Text := do
  let values ← renderValues py request kind
  return substitute kind.template values.get


/-! ## What a wrapper is for -/

/-- The tokens of a piece. -/
def Part.tokens (values : Field → Text) : Part → List Token
  | .text lines => PythonTokens.tokens (joinLines lines)
  | .quoted field => [.str (values field)]
  | .raw field => PythonTokens.tokens (values field)

/-- The caps that are asked for, and the defaults of the others. -/
def MergedCaps (asked : Dict Text CapValue) (caps : List (Text × Nat)) : Prop :=
  caps.map Prod.fst = RUNNER_DEFAULT_CAPS.map Prod.fst ∧
    ∀ key n, (key, n) ∈ RUNNER_DEFAULT_CAPS →
      caps.lookup key = some (((asked.get? key).bind CapValue.positive?).getD n)

/-- What the literals of one of the wrappers hold. -/
def WrapperKind.Holds (kind : WrapperKind) (values : Values) : Prop :=
  match kind with
  | .live allowWrite => values.allowWriteSetup = Introspect.allowWriteSetup allowWrite
  | .vmcore paths =>
      (decodeB64 values.vmcorePathB64).map (List.map .char) = some paths.vmcorePath ∧
        (decodeB64 values.vmlinuxPathB64).map (List.map .char) = some paths.vmlinuxPath ∧
        (decodeB64 values.modulesPathB64).map (List.map .char) = some (paths.modulesPath.getD [])

/-- The tokens of the program are those of the template, with a literal for every value, and the
literals hold what was asked for. -/
structure Embedded (request : WrapperRequest) (kind : WrapperKind) (program : Text) (values : Values) :
    Prop where
  tokens : scan .code program = some (.code, kind.template.flatMap (Part.tokens values.get))
  script : (decodeB64 values.userScriptB64).map (List.map .char) = some request.userScript
  args : (decodeB64 values.argsB64).map (List.map .char) = some request.argsJson
  buildId : values.expectedBuildId.map .char = request.expectedBuildId
  callId : values.callId.map .char = request.callId
  caps : ∃ caps, readDict (PythonTokens.tokens values.capsJson) = some caps ∧
    MergedCaps request.caps caps
  kind : kind.Holds values

/-! ## Pieces of programs -/

/-- Lines that are code from one end to the other. -/
structure CodeLines (lines : List String) : Prop where
  behind_eq : behind (some .code) (joinLines lines) = some .code

theorem codeLines_single {line : String} {chars : Text} (hline : line = String.ofList chars)
    (hcode : behind (some .code) chars = some .code) : CodeLines [line] := by
  subst hline
  constructor
  rw [joinLines]
  simpa [List.intercalate] using hcode

theorem joinLines_cons (line next : String) (lines : List String) :
    joinLines (line :: next :: lines) = line.toList ++ '\n' :: joinLines (next :: lines) := by
  simp [joinLines, List.intercalate]

theorem codeLines_cons {line next : String} {chars : Text} {lines : List String}
    (hline : line = String.ofList chars)
    (hcode : behind (some .code) (chars ++ ['\n']) = some .code)
    (hlines : CodeLines (next :: lines)) : CodeLines (line :: next :: lines) := by
  subst hline
  constructor
  rw [joinLines_cons, String.toList_ofList, List.append_cons, behind_append, hcode]
  exact hlines.behind_eq

/-- The first character of some lines is not this one. -/
def StartsElsewhere (quote : Char) (lines : List String) : Prop :=
  ∃ c rest, joinLines lines = c :: rest ∧ c ≠ quote

theorem startsElsewhere_cons {quote c : Char} {line next : String} {chars rest : Text}
    {lines : List String} (hline : line = String.ofList chars) (hchars : chars ++ ['\n'] = c :: rest)
    (hne : c ≠ quote) : StartsElsewhere quote (line :: next :: lines) := by
  subst hline
  refine ⟨c, rest ++ joinLines (next :: lines), ?_, hne⟩
  rw [joinLines_cons, String.toList_ofList, List.append_cons, hchars]
  rfl

/-- Every placeholder of a template stands in the code, and no quote is next to a literal. -/
def WellCut : Bool → List Part → Prop
  | behindLiteral, [] => behindLiteral = false
  | behindLiteral, .text lines :: parts =>
      (behindLiteral = true → StartsElsewhere '"' lines) ∧ CodeLines lines ∧ WellCut false parts
  | behindLiteral, .quoted _ :: parts => behindLiteral = false ∧ WellCut true parts
  | behindLiteral, .raw _ :: parts => behindLiteral = false ∧ WellCut false parts

theorem WellCut.append {left right : List Part} {behindLiteral : Bool}
    (hleft : WellCut behindLiteral left) (hright : WellCut false right) :
    WellCut behindLiteral (left ++ right) := by
  induction left generalizing behindLiteral with
  | nil =>
      obtain rfl : behindLiteral = false := hleft
      exact hright
  | cons part left ih =>
      cases part with
      | text lines => exact ⟨hleft.1, hleft.2.1, ih hleft.2.2⟩
      | quoted field => exact ⟨hleft.1, ih hleft.2⟩
      | raw field => exact ⟨hleft.1, ih hleft.2⟩

/-- Where the reading stands between two pieces. -/
inductive Between : Bool → State → Prop
  | code : Between false .code
  | literal (text : Text) : Between true (closed '"' text)

section Parts

variable {values : Field → Text}

theorem scan_lines {lines : List String} {behindLiteral : Bool} {state : State}
    (hstart : behindLiteral = true → StartsElsewhere '"' lines) (hcode : CodeLines lines)
    (hbetween : Between behindLiteral state) :
    scan state (joinLines lines) = some (.code, PythonTokens.tokens (joinLines lines)) := by
  have hscan := scan_of_behind hcode.behind_eq
  cases hbetween with
  | code => exact hscan
  | literal text =>
      obtain ⟨c, rest, heq, hne⟩ := hstart rfl
      rw [heq] at hscan ⊢
      rw [scan_closed text rest hne, hscan]

/-- The tokens of a template whose literals hold plain text. -/
theorem scan_substitute {parts : List Part} {behindLiteral : Bool} {state : State}
    (hcut : WellCut behindLiteral parts) (hbetween : Between behindLiteral state)
    (hquoted : ∀ field, .quoted field ∈ parts → Plain '"' (values field))
    (hraw : ∀ field, .raw field ∈ parts → behind (some .code) (values field) = some .code) :
    scan state (substitute parts values) = some (.code, parts.flatMap (Part.tokens values)) := by
  induction parts generalizing behindLiteral state with
  | nil =>
      obtain rfl : behindLiteral = false := hcut
      cases hbetween
      rfl
  | cons part parts ih =>
      have hquoted' := fun field h => hquoted field (List.mem_cons_of_mem part h)
      have hraw' := fun field h => hraw field (List.mem_cons_of_mem part h)
      rw [substitute, List.flatMap_cons, scan_append, List.flatMap_cons]
      cases part with
      | text lines =>
          obtain ⟨hstart, hcode, hparts⟩ := hcut
          rw [Part.render, scan_lines hstart hcode hbetween, Option.bind_some]
          dsimp only
          rw [← substitute, ih hparts .code hquoted' hraw']
          rfl
      | quoted field =>
          obtain ⟨rfl, hparts⟩ := hcut
          cases hbetween
          rw [Part.render, scan_quoted rfl (hquoted field List.mem_cons_self), Option.bind_some]
          dsimp only
          rw [← substitute, ih hparts (.literal _) hquoted' hraw']
          rfl
      | raw field =>
          obtain ⟨rfl, hparts⟩ := hcut
          cases hbetween
          rw [Part.render, scan_of_behind (hraw field List.mem_cons_self), Option.bind_some]
          dsimp only
          rw [← substitute, ih hparts .code hquoted' hraw']
          rfl

/-- A literal that a newline cuts off breaks the program. -/
theorem scan_substitute_cutOff {parts : List Part} {behindLiteral : Bool} {state : State}
    (hcut : WellCut behindLiteral parts) (hbetween : Between behindLiteral state)
    (hquoted : ∀ field, .quoted field ∈ parts →
      Plain '"' (values field) ∨ CutOff '"' (values field))
    (hraw : ∀ field, .raw field ∈ parts → behind (some .code) (values field) = some .code)
    {broken : Field} (hmem : .quoted broken ∈ parts) (hbroken : CutOff '"' (values broken)) :
    scan state (substitute parts values) = none := by
  induction parts generalizing behindLiteral state with
  | nil => cases hmem
  | cons part parts ih =>
      have hquoted' := fun field h => hquoted field (List.mem_cons_of_mem part h)
      have hraw' := fun field h => hraw field (List.mem_cons_of_mem part h)
      rw [substitute, List.flatMap_cons]
      cases part with
      | text lines =>
          obtain ⟨hstart, hcode, hparts⟩ := hcut
          have hmem' := (List.mem_cons.mp hmem).resolve_left (by simp)
          rw [scan_append, Part.render, scan_lines hstart hcode hbetween, Option.bind_some]
          dsimp only
          rw [← substitute, ih hparts .code hquoted' hraw' hmem']
          rfl
      | quoted field =>
          obtain ⟨rfl, hparts⟩ := hcut
          cases hbetween
          rcases hquoted field List.mem_cons_self with hplain | hcutOff
          · have hne : broken ≠ field := by
              rintro rfl
              obtain ⟨before, c, after, heq, -, -, hnewline⟩ := hbroken
              have hc := hplain c (by rw [heq]; simp)
              simp [isPlain, hnewline] at hc
            have hmem' := (List.mem_cons.mp hmem).resolve_left fun heq => hne (Part.quoted.inj heq)
            rw [scan_append, Part.render, scan_quoted rfl hplain, Option.bind_some]
            dsimp only
            rw [← substitute, ih hparts (.literal _) hquoted' hraw' hmem']
            rfl
          · rw [Part.render, List.append_assoc]
            exact scan_cutOff rfl hcutOff _
      | raw field =>
          obtain ⟨rfl, hparts⟩ := hcut
          cases hbetween
          have hmem' := (List.mem_cons.mp hmem).resolve_left (by simp)
          rw [scan_append, Part.render, scan_of_behind (hraw field List.mem_cons_self),
            Option.bind_some]
          dsimp only
          rw [← substitute, ih hparts .code hquoted' hraw' hmem']
          rfl

end Parts

/-! ## The templates -/

theorem wellCut_body : WellCut false WRAPPER_BODY := by
  refine ⟨nofun, ?_, rfl, ⟨fun _ => startsElsewhere_cons rfl rfl (by decide), ?_, rfl,
    ⟨fun _ => startsElsewhere_cons rfl rfl (by decide), ?_, rfl⟩⟩⟩
  all_goals
    repeat refine codeLines_cons rfl (by decide +kernel) ?_
    exact codeLines_single rfl (by decide +kernel)

theorem wellCut_live : WellCut false WRAPPER_PROLOGUE_LIVE := by
  refine ⟨nofun, ?_, rfl, nofun, ?_, rfl, ⟨fun _ => startsElsewhere_cons rfl rfl (by decide), ?_,
    rfl, nofun, ?_, rfl, ⟨fun _ => startsElsewhere_cons rfl rfl (by decide), ?_, rfl,
      ⟨fun _ => startsElsewhere_cons rfl rfl (by decide), ?_, rfl⟩⟩⟩⟩
  all_goals
    repeat refine codeLines_cons rfl (by decide +kernel) ?_
    exact codeLines_single rfl (by decide +kernel)

theorem wellCut_vmcore : WellCut false WRAPPER_PROLOGUE_VMCORE := by
  refine ⟨nofun, ?_, rfl, nofun, ?_, rfl, ⟨fun _ => startsElsewhere_cons rfl rfl (by decide), ?_,
    rfl, ⟨fun _ => startsElsewhere_cons rfl rfl (by decide), ?_, rfl,
      ⟨fun _ => startsElsewhere_cons rfl rfl (by decide), ?_, rfl,
        ⟨fun _ => startsElsewhere_cons rfl rfl (by decide), ?_, rfl,
          ⟨fun _ => startsElsewhere_cons rfl rfl (by decide), ?_, rfl,
            ⟨fun _ => startsElsewhere_cons rfl rfl (by decide), ?_, rfl⟩⟩⟩⟩⟩⟩⟩
  all_goals
    repeat refine codeLines_cons rfl (by decide +kernel) ?_
    exact codeLines_single rfl (by decide +kernel)

theorem wellCut_template (kind : WrapperKind) : WellCut false kind.template := by
  cases kind with
  | live allowWrite => exact wellCut_live.append wellCut_body
  | vmcore paths => exact wellCut_vmcore.append wellCut_body

theorem allowWriteSetup_code (allowWrite : Bool) :
    behind (some .code) (allowWriteSetup allowWrite) = some .code := by
  cases allowWrite with
  | true => decide +kernel
  | false =>
      refine CodeLines.behind_eq ?_
      repeat refine codeLines_cons rfl (by decide +kernel) ?_
      exact codeLines_single rfl (by decide +kernel)

/-! ## Values -/

theorem text?_map (text : Text) : text? (text.map .char) = some text := by
  induction text with
  | nil => rfl
  | cons c text ih =>
      rw [List.map_cons, text?, List.mapM_cons, ← text?, ih]
      rfl

theorem text?_eq_some {s : PyText} {text : Text} (h : text? s = some text) : s = text.map .char := by
  induction s generalizing text with
  | nil =>
      obtain rfl : [] = text := Option.some.inj h
      rfl
  | cons c s ih =>
      rw [text?, List.mapM_cons, ← text?] at h
      obtain ⟨first, hfirst, h⟩ := Option.bind_eq_some_iff.mp h
      obtain ⟨rest, hrest, h⟩ := Option.bind_eq_some_iff.mp h
      obtain rfl : first :: rest = text := Option.some.inj h
      cases c with
      | surrogate n => cases hfirst
      | char c =>
          obtain rfl : c = first := Option.some.inj hfirst
          rw [List.map_cons, ih hrest]

/-- What is encoded is decoded again. -/
theorem decodeB64_of_encodeB64 {s : PyText} {value : Text} (h : encodeB64 s = .ok value) :
    (decodeB64 value).map (List.map .char) = some s ∧ Plain '"' value := by
  rw [encodeB64] at h
  cases htext : text? s with
  | none =>
      rw [htext] at h
      cases h
  | some text =>
      rw [htext] at h
      obtain rfl := Except.ok.inj h
      have hlt := Utf8.encode_lt text
      constructor
      · rw [decodeB64, Base64.decode_encode hlt, Option.bind_some, Utf8.decodeStrict_encode,
          Option.map_some, ← text?_eq_some htext]
      · intro c hc
        rcases Base64.encode_written hlt c hc with rfl | ⟨n, hn, rfl⟩
        · decide
        · have hall : ∀ n < 64, isPlain '"' (Base64.digitChar n) = true := by decide
          exact hall n hn

theorem decodeB64_of_encodePath {field : String} {path : Option PyText} {value : Text}
    (h : encodePath field path = .ok value) :
    (decodeB64 value).map (List.map .char) = some (path.getD []) ∧ Plain '"' value := by
  rw [encodePath] at h
  obtain ⟨_, -, h⟩ := bind_eq_ok.mp h
  cases hencode : encodeB64 (path.getD []) with
  | error e =>
      rw [hencode] at h
      cases h
  | ok encoded =>
      rw [hencode] at h
      obtain rfl := Except.ok.inj h
      exact decodeB64_of_encodeB64 hencode

/-- A text that ends in a newline. -/
def EndsInNewline (s : PyText) : Prop := s.getLast? = some (.char '\n')

instance (s : PyText) : Decidable (EndsInNewline s) := inferInstanceAs (Decidable (_ = _))

theorem plain_of_hex {line : Text} (h : line.all isLowerHex = true) : Plain '"' line := by
  intro c hc
  have hhex := List.all_eq_true.mp h c hc
  rw [isPlain]
  have hne : ∀ other, isLowerHex other = false → c ≠ other := by
    rintro other hother rfl
    rw [hhex] at hother
    cases hother
  simp [isNewline, hne '"' (by decide), hne '\n' (by decide), hne '\r' (by decide),
    hne '\\' (by decide)]

/-- What matches is plain text, or a newline ends it. -/
theorem matchHex_eq_some {count : Nat → Bool} {s : PyText} {text : Text}
    (h : matchHex count s = some text) :
    text.map .char = s ∧ (¬ EndsInNewline s → Plain '"' text) ∧
      (EndsInNewline s → CutOff '"' text) := by
  obtain ⟨htext, hmatches⟩ := Option.filter_eq_some_iff.mp h
  rw [Bool.and_eq_true] at hmatches
  have hs := text?_eq_some htext
  have hlast : EndsInNewline s ↔ text.getLast? = some '\n' := by
    rw [EndsInNewline, hs, List.getLast?_map]
    cases text.getLast? <;> simp
  refine ⟨hs.symm, fun hnot => ?_, fun hends => ?_⟩
  · rw [beforeEnd, if_neg fun heq => hnot (hlast.mpr heq)] at hmatches
    exact plain_of_hex hmatches.2
  · obtain ⟨before, hbefore⟩ := List.getLast?_eq_some_iff.mp (hlast.mp hends)
    rw [beforeEnd, if_pos (hlast.mp hends), hbefore, List.dropLast_concat] at hmatches
    exact ⟨before, '\n', [], hbefore, plain_of_hex hmatches.2, by decide, by decide⟩

/-! ## Caps -/

theorem setCap_fst (key : Text) (value : Nat) (caps : List (Text × Nat)) :
    (setCap key value caps).map Prod.fst = caps.map Prod.fst := by
  rw [setCap, List.map_map]
  refine List.map_congr_left fun cap _ => ?_
  show (if cap.1 = key then (key, value) else cap).1 = cap.1
  split
  · next heq => exact heq.symm
  · rfl

theorem lookup_setCap (key other : Text) (value : Nat) (caps : List (Text × Nat)) :
    (setCap key value caps).lookup other =
      (caps.lookup other).map fun n => if other = key then value else n := by
  induction caps with
  | nil => rfl
  | cons cap caps ih =>
      obtain ⟨name, n⟩ := cap
      rw [setCap, List.map_cons, ← setCap]
      by_cases hname : name = key
      · subst hname
        rw [if_pos rfl, List.lookup_cons, List.lookup_cons]
        by_cases hother : other = name
        · simp [hother]
        · rw [beq_false_of_ne hother, ih]
      · rw [if_neg hname, List.lookup_cons, List.lookup_cons]
        by_cases hother : other = name
        · subst hother
          simp [hname]
        · rw [beq_false_of_ne hother, ih]

/-- A key keeps its place, and has the value that was asked for. -/
theorem mergeCaps_eq_ok {repr : PyText → Text} {asked : List (Text × CapValue)}
    {caps merged : List (Text × Nat)} (hnodup : (asked.map Prod.fst).Nodup)
    (h : mergeCaps repr asked caps = .ok merged) :
    merged.map Prod.fst = caps.map Prod.fst ∧
      ∀ key n, caps.lookup key = some n →
        merged.lookup key = some (((asked.lookup key).bind CapValue.positive?).getD n) := by
  induction asked generalizing caps with
  | nil =>
      obtain rfl := Except.ok.inj h
      exact ⟨rfl, fun key n hkey => hkey⟩
  | cons cap asked ih =>
      obtain ⟨name, value⟩ := cap
      rw [List.map_cons, List.nodup_cons] at hnodup
      rw [mergeCaps] at h
      obtain ⟨_, -, h⟩ := bind_eq_ok.mp h
      obtain ⟨number, hnumber, h⟩ := bind_eq_ok.mp h
      have hvalue : value.positive? = some number := by
        cases hpositive : value.positive? with
        | none =>
            rw [hpositive] at hnumber
            cases hnumber
        | some n =>
            rw [hpositive] at hnumber
            exact congrArg some (Except.ok.inj hnumber)
      obtain ⟨hkeys, hlookup⟩ := ih hnodup.2 h
      refine ⟨hkeys.trans (setCap_fst name number caps), fun key n hkey => ?_⟩
      have hset := lookup_setCap name key number caps
      rw [hkey] at hset
      rw [hlookup key _ hset, List.lookup_cons]
      by_cases heq : key = name
      · subst heq
        have hnone : asked.lookup key = none := by
          cases hfound : asked.lookup key with
          | none => rfl
          | some v =>
              exact absurd (List.mem_map_of_mem (Association.mem_of_lookup hfound)) hnodup.1
        simp [hnone, hvalue]
      · simp [heq, beq_false_of_ne heq]

theorem mergedCaps_of_ok {repr : PyText → Text} {asked : Dict Text CapValue}
    {merged : List (Text × Nat)} (h : mergeAndValidateCaps repr asked = .ok merged) :
    MergedCaps asked merged := by
  obtain ⟨hkeys, hlookup⟩ := mergeCaps_eq_ok asked.nodup h
  have hnodup : (RUNNER_DEFAULT_CAPS.map Prod.fst).Nodup := by decide +kernel
  refine ⟨hkeys, fun key n hmem => ?_⟩
  have hget : asked.get? key = asked.entries.lookup key := by
    cases hfound : asked.entries.lookup key with
    | some value => exact Dict.get?_eq_some.mpr (Association.mem_of_lookup hfound)
    | none =>
        refine Dict.get?_eq_none.mpr fun hmem => ?_
        obtain ⟨value, hvalue⟩ := Association.mem_keys.mp hmem
        rw [hfound] at hvalue
        cases hvalue
  rw [hget]
  exact hlookup key n (Association.lookup_of_mem hnodup hmem)

/-- The tokens of an item. -/
def itemTokens (item : Text × Nat) : List Token :=
  .str item.1 :: .code ':' :: .code ' ' :: (GdbMi.decimalText item.2).map .code

/-- The tokens of the items, separated. -/
def itemsTokens : List (Text × Nat) → List Token
  | [] => []
  | [item] => itemTokens item
  | item :: items => itemTokens item ++ .code ',' :: .code ' ' :: itemsTokens items

theorem dumpItems_cons (item next : Text × Nat) (items : List (Text × Nat)) :
    dumpItems (item :: next :: items) = dumpItem item ++ ',' :: ' ' :: dumpItems (next :: items) :=
  rfl

theorem itemsTokens_cons (item next : Text × Nat) (items : List (Text × Nat)) :
    itemsTokens (item :: next :: items) =
      itemTokens item ++ .code ',' :: .code ' ' :: itemsTokens (next :: items) := rfl

theorem isDigit_decimalText (n : Nat) : ∀ c ∈ GdbMi.decimalText n, c.isDigit = true :=
  fun _ hc => Nat.isDigit_of_mem_toDigits (by decide) (by decide) hc

theorem isBare_of_isDigit {c : Char} (h : c.isDigit = true) : isBare c = true := by
  have hne : ∀ other : Char, other.isDigit = false → c ≠ other := by
    rintro other hother rfl
    rw [h] at hother
    cases hother
  rw [isBare, isQuote]
  simp [hne '#' (by decide), hne '"' (by decide), hne '\'' (by decide), hne '\\' (by decide)]

theorem scan_dumpItem {item : Text × Nat} (h : Plain '"' item.1) :
    scan .code (dumpItem item) = some (.code, itemTokens item) := by
  have hrest : scan .code (':' :: ' ' :: GdbMi.decimalText item.2) =
      some (.code, (':' :: ' ' :: GdbMi.decimalText item.2).map .code) := by
    refine scan_bare fun c hc => ?_
    rcases List.mem_cons.mp hc with rfl | hc
    · decide
    · rcases List.mem_cons.mp hc with rfl | hc
      · decide
      · exact isBare_of_isDigit (isDigit_decimalText item.2 c hc)
  have hsplit : dumpItem item =
      ('"' :: item.1 ++ ['"']) ++ (':' :: ' ' :: GdbMi.decimalText item.2) := by
    simp [dumpItem]
  rw [hsplit, scan_append, scan_quoted rfl h]
  show Option.map _ (scan (closed '"' item.1) _) = _
  rw [scan_closed _ _ (by decide), hrest]
  rfl

theorem scan_dumpItems {items : List (Text × Nat)} (h : ∀ item ∈ items, Plain '"' item.1) :
    scan .code (dumpItems items) = some (.code, itemsTokens items) := by
  have hcomma : scan .code [',', ' '] = some (.code, [.code ',', .code ' ']) := rfl
  induction items with
  | nil => rfl
  | cons item items ih =>
      rw [List.forall_mem_cons] at h
      cases items with
      | nil => exact scan_dumpItem h.1
      | cons next items =>
          rw [dumpItems_cons, scan_append, scan_dumpItem h.1]
          show Option.map _ (scan .code ([',', ' '] ++ dumpItems (next :: items))) = _
          rw [scan_append, hcomma]
          show Option.map _ (Option.map _ (scan .code (dumpItems (next :: items)))) = _
          rw [ih h.2]
          rfl

/-- The items are read back. -/
theorem readItems_itemsTokens {items : List (Text × Nat)} (hne : items ≠ []) :
    readItems ((itemsTokens items).filter (fun token => token ≠ .code ' ') ++ [.code '}']) =
      some items := by
  have hdigits : ∀ n, ((GdbMi.decimalText n).map Token.code).filter (fun token => token ≠ .code ' ') =
      (GdbMi.decimalText n).map .code := by
    intro n
    rw [List.filter_eq_self]
    intro token htoken
    obtain ⟨c, hc, rfl⟩ := List.mem_map.mp htoken
    have hdigit := isDigit_decimalText n c hc
    have hspace : c ≠ ' ' := by
      rintro rfl
      cases hdigit
    simpa using hspace
  have hitem : ∀ (item : Text × Nat) rest,
      readItems ((itemTokens item).filter (fun token => token ≠ .code ' ') ++ rest) =
        readNumber item.1 item.2 rest := by
    intro item rest
    have hfilter : (itemTokens item).filter (fun token => token ≠ .code ' ') =
        .str item.1 :: .code ':' :: (GdbMi.decimalText item.2).map .code := by
      rw [itemTokens, List.filter_cons_of_pos (by simp), List.filter_cons_of_pos (by decide),
        List.filter_cons_of_neg (by decide), hdigits]
    rw [hfilter]
    show readNumber item.1 0 ((GdbMi.decimalText item.2).map .code ++ rest) = _
    rw [readNumber_digits item.1 (isDigit_decimalText item.2), GdbMi.decimalText,
      Nat.ofDigitChars_ten_toDigits]
  induction items with
  | nil => exact absurd rfl hne
  | cons item items ih =>
      cases items with
      | nil =>
          rw [itemsTokens, hitem]
          rfl
      | cons next items =>
          rw [itemsTokens_cons, List.filter_append, List.append_assoc, hitem,
            List.filter_cons_of_pos (by decide), List.filter_cons_of_neg (by decide), List.cons_append]
          show Option.map _ (readItems _) = _
          rw [ih (List.cons_ne_nil _ _)]
          rfl

theorem readDict_dumpCaps {caps : List (Text × Nat)} {value : Text} (hne : caps ≠ [])
    (hplain : ∀ cap ∈ caps, Plain '"' cap.1) (h : dumpCaps caps = .ok value) :
    behind (some .code) value = some .code ∧
      readDict (PythonTokens.tokens value) = some caps := by
  rw [dumpCaps] at h
  split at h
  · obtain rfl := Except.ok.inj h
    have hscan : scan .code ('{' :: dumpItems caps ++ ['}']) =
        some (.code, .code '{' :: itemsTokens caps ++ [.code '}']) := by
      have hopen : scan .code ['{'] = some (.code, [.code '{']) := rfl
      have hclose : scan .code ['}'] = some (.code, [.code '}']) := rfl
      rw [← List.singleton_append, List.append_assoc, scan_append, hopen]
      show Option.map _ (scan .code (dumpItems caps ++ ['}'])) = _
      rw [scan_append, scan_dumpItems hplain, Option.bind_some]
      dsimp only
      rw [hclose]
      rfl
    constructor
    · rw [behind_eq, hscan]
      rfl
    · rw [PythonTokens.tokens, hscan]
      show readDict (.code '{' :: (itemsTokens caps ++ [.code '}'])) = _
      rw [readDict, List.filter_cons_of_pos (by decide), List.filter_append]
      exact readItems_itemsTokens hne
  · cases h

/-! ## Rendered wrappers -/

/-- The placeholders between quotes, and those in the code. -/
def quotedFields (parts : List Part) : List Field :=
  parts.filterMap fun | .quoted field => some field | _ => none

def rawFields (parts : List Part) : List Field :=
  parts.filterMap fun | .raw field => some field | _ => none

theorem mem_quotedFields {parts : List Part} {field : Field} :
    field ∈ quotedFields parts ↔ .quoted field ∈ parts := by
  rw [quotedFields, List.mem_filterMap]
  constructor
  · rintro ⟨part, hpart, heq⟩
    cases part with
    | quoted found => exact Option.some.inj heq ▸ hpart
    | text lines => cases heq
    | raw found => cases heq
  · exact fun h => ⟨_, h, rfl⟩

theorem mem_rawFields {parts : List Part} {field : Field} :
    field ∈ rawFields parts ↔ .raw field ∈ parts := by
  rw [rawFields, List.mem_filterMap]
  constructor
  · rintro ⟨part, hpart, heq⟩
    cases part with
    | raw found => exact Option.some.inj heq ▸ hpart
    | text lines => cases heq
    | quoted found => cases heq
  · exact fun h => ⟨_, h, rfl⟩

theorem quotedFields_template (kind : WrapperKind) :
    quotedFields kind.template = match kind with
      | .live _ => [.callId, .expectedBuildId, .expectedBuildId, .argsB64, .userScriptB64]
      | .vmcore _ => [.callId, .vmcorePathB64, .vmlinuxPathB64, .modulesPathB64, .expectedBuildId,
          .expectedBuildId, .argsB64, .userScriptB64] := by
  cases kind <;> rfl

theorem rawFields_template (kind : WrapperKind) :
    rawFields kind.template = match kind with
      | .live _ => [.capsJson, .allowWriteSetup]
      | .vmcore _ => [.capsJson] := by
  cases kind <;> rfl

section Rendered

variable {V : Type} {py : Python V} {request : WrapperRequest} {kind : WrapperKind}

/-- What is known of the values of a rendered wrapper. -/
structure Rendered (request : WrapperRequest) (kind : WrapperKind) (values : Values) : Prop where
  buildId : matchBuildId request.expectedBuildId = some values.expectedBuildId
  callId : matchCallId request.callId = some values.callId
  script : encodeB64 request.userScript = .ok values.userScriptB64
  args : encodeB64 request.argsJson = .ok values.argsB64
  caps : ∃ caps, MergedCaps request.caps caps ∧ dumpCaps caps = .ok values.capsJson
  kind : match kind with
    | .live allowWrite => values.allowWriteSetup = Introspect.allowWriteSetup allowWrite
    | .vmcore paths =>
        encodePath "vmcore_path" (some paths.vmcorePath) = .ok values.vmcorePathB64 ∧
          encodePath "vmlinux_path" (some paths.vmlinuxPath) = .ok values.vmlinuxPathB64 ∧
          encodePath "modules_path" paths.modulesPath = .ok values.modulesPathB64

theorem renderValues_eq_ok {values : Values} (h : renderValues py request kind = .ok values) :
    Rendered request kind values := by
  have hrequire : ∀ {α : Type} {x : Option α} {e : RenderError} {a : α},
      require x e = .ok a → x = some a := by
    intro α x e a hx
    cases x with
    | none => cases hx
    | some a' => exact congrArg some (Except.ok.inj hx)
  rw [renderValues] at h
  obtain ⟨buildId, hbuildId, h⟩ := bind_eq_ok.mp h
  obtain ⟨callId, hcallId, h⟩ := bind_eq_ok.mp h
  obtain ⟨merged, hmerged, h⟩ := bind_eq_ok.mp h
  obtain ⟨_, -, h⟩ := bind_eq_ok.mp h
  obtain ⟨script, hscript, h⟩ := bind_eq_ok.mp h
  obtain ⟨args, hargs, h⟩ := bind_eq_ok.mp h
  obtain ⟨capsJson, hcapsJson, h⟩ := bind_eq_ok.mp h
  have hcaps := mergedCaps_of_ok hmerged
  cases kind with
  | live allowWrite =>
      obtain rfl := Except.ok.inj h
      exact ⟨hrequire hbuildId, hrequire hcallId, hscript, hargs, ⟨merged, hcaps, hcapsJson⟩, rfl⟩
  | vmcore paths =>
      obtain ⟨vmcore, hvmcore, h⟩ := bind_eq_ok.mp h
      obtain ⟨vmlinux, hvmlinux, h⟩ := bind_eq_ok.mp h
      obtain ⟨modules, hmodules, h⟩ := bind_eq_ok.mp h
      obtain rfl := Except.ok.inj h
      exact ⟨hrequire hbuildId, hrequire hcallId, hscript, hargs, ⟨merged, hcaps, hcapsJson⟩,
        hvmcore, hvmlinux, hmodules⟩

/-- The literals, and the caps, as they are read back. -/
theorem Rendered.quoted {values : Values} (h : Rendered request kind values) :
    ∀ field ∈ quotedFields kind.template, field = .expectedBuildId ∨ field = .callId ∨
      Plain '"' (values.get field) := by
  have hscript := (decodeB64_of_encodeB64 h.script).2
  have hargs := (decodeB64_of_encodeB64 h.args).2
  rw [quotedFields_template]
  intro field hfield
  cases kind with
  | live allowWrite =>
      simp only [List.mem_cons, List.not_mem_nil, or_false] at hfield
      rcases hfield with rfl | rfl | rfl | rfl | rfl
      · exact .inr (.inl rfl)
      · exact .inl rfl
      · exact .inl rfl
      · exact .inr (.inr hargs)
      · exact .inr (.inr hscript)
  | vmcore paths =>
      obtain ⟨hvmcore, hvmlinux, hmodules⟩ := h.kind
      simp only [List.mem_cons, List.not_mem_nil, or_false] at hfield
      rcases hfield with rfl | rfl | rfl | rfl | rfl | rfl | rfl | rfl
      · exact .inr (.inl rfl)
      · exact .inr (.inr (decodeB64_of_encodePath hvmcore).2)
      · exact .inr (.inr (decodeB64_of_encodePath hvmlinux).2)
      · exact .inr (.inr (decodeB64_of_encodePath hmodules).2)
      · exact .inl rfl
      · exact .inl rfl
      · exact .inr (.inr hargs)
      · exact .inr (.inr hscript)

theorem Rendered.caps_read {values : Values} (h : Rendered request kind values) :
    behind (some .code) values.capsJson = some .code ∧
      ∃ caps, readDict (PythonTokens.tokens values.capsJson) = some caps ∧
        MergedCaps request.caps caps := by
  obtain ⟨caps, hmerged, hdump⟩ := h.caps
  have hnames : ∀ name ∈ RUNNER_DEFAULT_CAPS.map Prod.fst, name.all (isPlain '"') = true := by
    decide +kernel
  have hplain : ∀ cap ∈ caps, Plain '"' cap.1 := by
    intro cap hcap c hc
    have hname : cap.1 ∈ RUNNER_DEFAULT_CAPS.map Prod.fst :=
      hmerged.1 ▸ List.mem_map_of_mem hcap
    exact List.all_eq_true.mp (hnames _ hname) c hc
  have hne : caps ≠ [] := by
    rintro rfl
    cases hmerged.1
  obtain ⟨hcode, hread⟩ := readDict_dumpCaps hne hplain hdump
  exact ⟨hcode, caps, hread, hmerged⟩

theorem Rendered.raw {values : Values} (h : Rendered request kind values) :
    ∀ field ∈ rawFields kind.template, behind (some .code) (values.get field) = some .code := by
  rw [rawFields_template]
  intro field hfield
  cases kind with
  | live allowWrite =>
      simp only [List.mem_cons, List.not_mem_nil, or_false] at hfield
      rcases hfield with rfl | rfl
      · exact h.caps_read.1
      · have hsetup : values.allowWriteSetup = _ := h.kind
        show behind (some .code) values.allowWriteSetup = _
        rw [hsetup]
        exact allowWriteSetup_code allowWrite
  | vmcore paths =>
      obtain rfl := List.mem_singleton.mp hfield
      exact h.caps_read.1

theorem Rendered.raw_code {values : Values} (h : Rendered request kind values) :
    ∀ field, .raw field ∈ kind.template → behind (some .code) (values.get field) = some .code :=
  fun field hfield => h.raw field (mem_rawFields.mpr hfield)

/-- An identifier that ends in a newline breaks the program. -/
theorem Rendered.broken {values : Values} (h : Rendered request kind values)
    (hends : EndsInNewline request.expectedBuildId ∨ EndsInNewline request.callId) :
    scan .code (substitute kind.template values.get) = none := by
  obtain ⟨-, hbuildPlain, hbuildCut⟩ := matchHex_eq_some h.buildId
  obtain ⟨-, hcallPlain, hcallCut⟩ := matchHex_eq_some h.callId
  have hquoted : ∀ field, .quoted field ∈ kind.template →
      Plain '"' (values.get field) ∨ CutOff '"' (values.get field) := by
    intro field hfield
    rcases h.quoted field (mem_quotedFields.mpr hfield) with rfl | rfl | hplain
    · exact (em (EndsInNewline request.expectedBuildId)).symm.imp hbuildPlain hbuildCut
    · exact (em (EndsInNewline request.callId)).symm.imp hcallPlain hcallCut
    · exact .inl hplain
  have hmem : .quoted .expectedBuildId ∈ kind.template ∧ .quoted .callId ∈ kind.template := by
    rw [← mem_quotedFields, ← mem_quotedFields, quotedFields_template]
    cases kind <;> simp
  rcases hends with hbuild | hcall
  · exact scan_substitute_cutOff (wellCut_template kind) .code hquoted h.raw_code hmem.1
      (hbuildCut hbuild)
  · exact scan_substitute_cutOff (wellCut_template kind) .code hquoted h.raw_code hmem.2
      (hcallCut hcall)

theorem Rendered.embedded {values : Values} (h : Rendered request kind values)
    (hbuild : ¬ EndsInNewline request.expectedBuildId) (hcall : ¬ EndsInNewline request.callId) :
    Embedded request kind (substitute kind.template values.get) values where
  tokens := by
    refine scan_substitute (wellCut_template kind) .code (fun field hfield => ?_) h.raw_code
    rcases h.quoted field (mem_quotedFields.mpr hfield) with rfl | rfl | hplain
    · exact (matchHex_eq_some h.buildId).2.1 hbuild
    · exact (matchHex_eq_some h.callId).2.1 hcall
    · exact hplain
  script := (decodeB64_of_encodeB64 h.script).1
  args := (decodeB64_of_encodeB64 h.args).1
  buildId := (matchHex_eq_some h.buildId).1
  callId := (matchHex_eq_some h.callId).1
  caps := h.caps_read.2
  kind := by
    cases kind with
    | live allowWrite => exact h.kind
    | vmcore paths =>
        obtain ⟨hvmcore, hvmlinux, hmodules⟩ := h.kind
        exact ⟨(decodeB64_of_encodePath hvmcore).1, (decodeB64_of_encodePath hvmlinux).1,
          (decodeB64_of_encodePath hmodules).1⟩

/-- A rendered wrapper is what it is for exactly if neither of the identifiers ends in a
newline. -/
theorem embedded_iff (py : Python V) (request : WrapperRequest) (kind : WrapperKind) (program : Text)
    (h : renderWrapper py request kind = .ok program) :
    (∃ values, Embedded request kind program values) ↔
      ¬ EndsInNewline request.expectedBuildId ∧ ¬ EndsInNewline request.callId := by
  obtain ⟨values, hvalues, hprogram⟩ := bind_eq_ok.mp h
  obtain rfl := Except.ok.inj hprogram
  have hrendered := renderValues_eq_ok hvalues
  constructor
  · rintro ⟨found, hembedded⟩
    rw [← not_or]
    intro hends
    exact nomatch hembedded.tokens.symm.trans (hrendered.broken hends)
  · rintro ⟨hbuild, hcall⟩
    exact ⟨values, hrendered.embedded hbuild hcall⟩

end Rendered

/-! ## Two requests -/

/-- An interpreter that reads one JSON text, the empty object. -/
def smallPython : Python Unit where
  loads s := if s = "{}".toList.map .char then .ok () else .error (.decode "Expecting value".toList)
  repr s := '\'' :: s.filterMap PyChar.char? ++ ['\'']

/-- A script, and a build id. -/
def smallRequest (buildId : String) : WrapperRequest where
  userScript := "emit(\"$\x7bCALL_ID\x7d\")\n".toList.map .char
  expectedBuildId := buildId.toList.map .char
  callId := List.replicate 32 (.char 'a')
  argsJson := "{}".toList.map .char
  caps := Dict.empty.set "emits".toList (.int 7)

theorem small_embedded : ∃ program,
    renderWrapper smallPython (smallRequest "deadbeef") (.live false) = .ok program ∧
      ∃ values, Embedded (smallRequest "deadbeef") (.live false) program values := by
  have hok : (renderWrapper smallPython (smallRequest "deadbeef") (.live false)).isOk = true := by
    decide +kernel
  cases h : renderWrapper smallPython (smallRequest "deadbeef") (.live false) with
  | error e =>
      rw [h] at hok
      cases hok
  | ok program =>
      exact ⟨program, rfl, (embedded_iff _ _ _ _ h).mpr ⟨by decide +kernel, by decide +kernel⟩⟩

/-- A build id that ends in a newline is accepted, and breaks the program. -/
theorem newline_not_embedded : ∃ program,
    renderWrapper smallPython (smallRequest "deadbeef\n") (.live false) = .ok program ∧
      ¬ ∃ values, Embedded (smallRequest "deadbeef\n") (.live false) program values := by
  have hok : (renderValues smallPython (smallRequest "deadbeef\n") (.live false)).isOk = true := by
    decide +kernel
  cases h : renderValues smallPython (smallRequest "deadbeef\n") (.live false) with
  | error e =>
      rw [h] at hok
      cases hok
  | ok values =>
      refine ⟨_, bind_eq_ok.mpr ⟨values, h, rfl⟩, ?_⟩
      rintro ⟨found, hembedded⟩
      have hbroken := (renderValues_eq_ok h).broken (.inl (by decide +kernel))
      exact nomatch hembedded.tokens.symm.trans hbroken

end Kdive.Introspect

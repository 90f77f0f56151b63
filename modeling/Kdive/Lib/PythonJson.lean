import Mathlib.Data.List.TakeWhile
import Kdive.Lib.Dict

/-!
# Reading JSON the way Python does

`loads` reads a text as the decoder of Python's standard library does.  Besides JSON it takes
`NaN`, `Infinity` and `-Infinity`, a surrogate may stand by itself in a string, and of two entries
of an object with one key the later value stays.  It fails in three ways that a caller can tell
apart: the text is no JSON, an integer has too many digits, or containers are nested deeper than
the interpreter recurses.

*Values.*  What is built is up to a `Builder`.  A string is its list of code points.

*Fuel.*  The elements of a container are read with the length of the text as fuel.  Every value
takes up a character (`Consumes`), so it suffices (`loads_ne_fuel`).
-/

namespace PythonJson

open Dictionary

variable {V : Type}

/-- What is built of the values that are read. -/
structure Builder (V : Type) where
  null : V
  bool : Bool → V
  int : Int → V
  float : List Char → V
  str : List Nat → V
  list : List V → V
  dict : Dict (List Nat) V → V

/-- Why a text is not read. -/
inductive Fault where
  /-- `JSONDecodeError` -/
  | decode
  /-- `ValueError`: an integer has too many digits. -/
  | tooManyDigits
  /-- `RecursionError` -/
  | recursion
  /-- It does not happen. -/
  | fuel
deriving DecidableEq, Repr

/-- A value and the text behind it. -/
abbrev Scan (α : Type) := Except Fault (α × List Char)

/-- The most digits that `int` reads. -/
def maxDigits : Nat := 4300

def isSpace (c : Char) : Bool := c = ' ' || c = '\t' || c = '\n' || c = '\r'

def skipSpace (text : List Char) : List Char := text.dropWhile isSpace

/-! ## Strings -/

def hexDigit? (c : Char) : Option Nat :=
  if '0' ≤ c ∧ c ≤ '9' then some (c.toNat - '0'.toNat)
  else if 'a' ≤ c ∧ c ≤ 'f' then some (c.toNat - 'a'.toNat + 10)
  else if 'A' ≤ c ∧ c ≤ 'F' then some (c.toNat - 'A'.toNat + 10)
  else none

/-- The number that four hexadecimal digits write. -/
def hexValue? (a b c d : Char) : Option Nat := do
  let a ← hexDigit? a
  let b ← hexDigit? b
  let c ← hexDigit? c
  let d ← hexDigit? d
  return ((a * 16 + b) * 16 + c) * 16 + d

/-- The character behind a backslash. -/
def escape? (c : Char) : Option Nat :=
  match c with
  | '"' => some 0x22
  | '\\' => some 0x5c
  | '/' => some 0x2f
  | 'b' => some 0x8
  | 'f' => some 0xc
  | 'n' => some 0xa
  | 'r' => some 0xd
  | 't' => some 0x9
  | _ => none

/-- One more code unit in front. -/
def push (n : Nat) (scanned : Scan (List Nat)) : Scan (List Nat) :=
  scanned.map fun (units, rest) => (n :: units, rest)

/-- The rest of a string, up to its closing quote. -/
def scanUnits : List Char → Scan (List Nat)
  | [] => .error .decode
  | c :: text =>
      if c = '"' then .ok ([], text)
      else if c = '\\' then
        match text with
        | 'u' :: h₁ :: h₂ :: h₃ :: h₄ :: text =>
            match hexValue? h₁ h₂ h₃ h₄ with
            | some n => push n (scanUnits text)
            | none => .error .decode
        | e :: text =>
            match escape? e with
            | some n => push n (scanUnits text)
            | none => .error .decode
        | [] => .error .decode
      else if c.toNat < 0x20 then .error .decode
      else push c.toNat (scanUnits text)

/-- A high surrogate joins the low one behind it. -/
def joinUnits : List Nat → List Nat
  | [] => []
  | [unit] => [unit]
  | high :: low :: units =>
      if 0xd800 ≤ high ∧ high < 0xdc00 ∧ 0xdc00 ≤ low ∧ low < 0xe000 then
        (0x10000 + (high - 0xd800) * 0x400 + (low - 0xdc00)) :: joinUnits units
      else high :: joinUnits (low :: units)

/-! ## Numbers -/

/-- The digits in front, and the text behind them. -/
def spanDigits (text : List Char) : List Char × List Char :=
  (text.takeWhile Char.isDigit, text.dropWhile Char.isDigit)

/-- The digits of the integer part. -/
def scanInteger : List Char → Option (List Char × List Char)
  | '0' :: rest => some (['0'], rest)
  | c :: rest => if c.isDigit then some (spanDigits (c :: rest)) else none
  | [] => none

/-- A fraction. -/
def scanFraction : List Char → List Char × List Char
  | '.' :: rest =>
      match spanDigits rest with
      | ([], _) => ([], '.' :: rest)
      | (digits, rest) => ('.' :: digits, rest)
  | text => ([], text)

/-- The sign of an exponent. -/
def scanSign : List Char → List Char × List Char
  | '+' :: rest => (['+'], rest)
  | '-' :: rest => (['-'], rest)
  | text => ([], text)

/-- An exponent. -/
def scanExponent (text : List Char) : List Char × List Char :=
  match text with
  | e :: rest =>
      if e = 'e' ∨ e = 'E' then
        match spanDigits (scanSign rest).2 with
        | ([], _) => ([], text)
        | (digits, behind) => (e :: (scanSign rest).1 ++ digits, behind)
      else ([], text)
  | [] => ([], [])

/-- A number behind its sign. -/
def scanUnsigned (b : Builder V) (negative : Bool) (text : List Char) : Scan V :=
  match scanInteger text with
  | none => .error .decode
  | some (digits, rest) =>
      let (fraction, rest) := scanFraction rest
      let (exponent, rest) := scanExponent rest
      if fraction = [] ∧ exponent = [] then
        if maxDigits < digits.length then .error .tooManyDigits
        else
          let n : Int := Nat.ofDigitChars 10 digits 0
          .ok (b.int (if negative then -n else n), rest)
      else
        let written := digits ++ fraction ++ exponent
        .ok (b.float (if negative then '-' :: written else written), rest)

/-! ## Values -/

/-- The text behind a word that it begins with. -/
def behind? (word text : List Char) : Option (List Char) :=
  if word.isPrefixOf text then some (text.drop word.length) else none

/-- A value that is no container. -/
def scanSimple (b : Builder V) (text : List Char) : Scan V :=
  match text with
  | '"' :: rest => (scanUnits rest).map fun (units, rest) => (b.str (joinUnits units), rest)
  | 'n' :: _ => word text "null" b.null
  | 't' :: _ => word text "true" (b.bool true)
  | 'f' :: _ => word text "false" (b.bool false)
  | 'N' :: _ => word text "NaN" (b.float "NaN".toList)
  | 'I' :: _ => word text "Infinity" (b.float "Infinity".toList)
  | '-' :: rest =>
      match behind? "Infinity".toList rest with
      | some rest => .ok (b.float "-Infinity".toList, rest)
      | none => scanUnsigned b true rest
  | _ => scanUnsigned b false text
where
  /-- A word that stands for a value. -/
  word (text : List Char) (w : String) (v : V) : Scan V :=
    match behind? w.toList text with
    | some rest => .ok (v, rest)
    | none => .error .decode

/-- The elements of an array, up to its closing bracket. -/
def scanElements (scan : List Char → Scan V) : Nat → List Char → Scan (List V)
  | 0, _ => .error .fuel
  | fuel + 1, text =>
      match scan text with
      | .error fault => .error fault
      | .ok (v, rest) =>
          match skipSpace rest with
          | ']' :: rest => .ok ([v], rest)
          | ',' :: rest =>
              (scanElements scan fuel (skipSpace rest)).map fun (vs, rest) => (v :: vs, rest)
          | _ => .error .decode

/-- A key and its colon. -/
def scanKey : List Char → Scan (List Nat)
  | '"' :: text =>
      match scanUnits text with
      | .error fault => .error fault
      | .ok (units, rest) =>
          match skipSpace rest with
          | ':' :: rest => .ok (joinUnits units, skipSpace rest)
          | _ => .error .decode
  | _ => .error .decode

/-- The entries of an object, up to its closing brace. -/
def scanEntries (scan : List Char → Scan V) : Nat → List Char → Scan (List (List Nat × V))
  | 0, _ => .error .fuel
  | fuel + 1, text =>
      match scanKey text with
      | .error fault => .error fault
      | .ok (key, rest) =>
          match scan rest with
          | .error fault => .error fault
          | .ok (v, rest) =>
              match skipSpace rest with
              | '}' :: rest => .ok ([(key, v)], rest)
              | ',' :: rest =>
                  (scanEntries scan fuel (skipSpace rest)).map fun (entries, rest) =>
                    ((key, v) :: entries, rest)
              | _ => .error .decode

/-- An array behind its opening bracket. -/
def scanArray (b : Builder V) (scan : List Char → Scan V) (text : List Char) : Scan V :=
  match skipSpace text with
  | ']' :: rest => .ok (b.list [], rest)
  | text => (scanElements scan (text.length + 1) text).map fun (vs, rest) => (b.list vs, rest)

/-- An object behind its opening brace. -/
def scanObject (b : Builder V) (scan : List Char → Scan V) (text : List Char) : Scan V :=
  match skipSpace text with
  | '}' :: rest => .ok (b.dict Dict.empty, rest)
  | text =>
      (scanEntries scan (text.length + 1) text).map fun (entries, rest) =>
        (b.dict (Dict.empty.setAll entries), rest)

/-- A value.  `room` is how deep the interpreter still recurses. -/
def scanOnce (b : Builder V) (room : Nat) (text : List Char) : Scan V :=
  match text with
  | '[' :: rest =>
      match room with
      | 0 => .error .recursion
      | room + 1 => scanArray b (scanOnce b room) rest
  | '{' :: rest =>
      match room with
      | 0 => .error .recursion
      | room + 1 => scanObject b (scanOnce b room) rest
  | _ => scanSimple b text

/-- `json.loads` -/
def loads (b : Builder V) (room : Nat) (text : List Char) : Except Fault V :=
  if text.head? = some '\ufeff' then .error .decode
  else
    match scanOnce b room (skipSpace text) with
    | .error fault => .error fault
    | .ok (v, rest) => if skipSpace rest = [] then .ok v else .error .decode

/-! ## Fuel -/

/-- Reading takes up at least one character, and does not run out of fuel. -/
structure Consumes {α : Type} (text : List Char) (scanned : Scan α) : Prop where
  fuel : scanned ≠ .error .fuel
  shorter : ∀ v rest, scanned = .ok (v, rest) → rest.length < text.length

section Consumes

variable {α β : Type} {text : List Char}

theorem consumes_error {fault : Fault} (h : fault ≠ .fuel) :
    Consumes text (.error fault : Scan α) := by
  constructor
  · intro heq
    cases heq
    exact h rfl
  · intro v rest heq
    cases heq

theorem consumes_ok {v : α} {rest : List Char} (h : rest.length < text.length) :
    Consumes text (.ok (v, rest)) := by
  constructor
  · intro heq
    cases heq
  · intro v' rest' heq
    cases heq
    exact h

/-- What is made of a value does not matter. -/
theorem Consumes.map {scanned : Scan α} (h : Consumes text scanned) (f : α → β) :
    Consumes text (scanned.map fun (v, rest) => (f v, rest)) := by
  cases scanned with
  | error fault => exact consumes_error fun heq => h.fuel (heq ▸ rfl)
  | ok read => exact consumes_ok (h.shorter _ _ rfl)

theorem Consumes.longer {text' : List Char} {scanned : Scan α} (h : Consumes text scanned)
    (hle : text.length ≤ text'.length) : Consumes text' scanned :=
  ⟨h.fuel, fun v rest heq => Nat.lt_of_lt_of_le (h.shorter v rest heq) hle⟩

theorem length_skipSpace_le (text : List Char) : (skipSpace text).length ≤ text.length :=
  (List.dropWhile_sublist _).length_le

theorem consumes_scanUnits : ∀ text, Consumes text (scanUnits text) := by
  intro text
  fun_induction scanUnits text with
  | case1 => exact consumes_error (by decide)
  | case2 => exact consumes_ok (by simp)
  | case3 h₁ h₂ h₃ h₄ text n hn hback ih =>
      exact (ih.map _).longer (by simp only [List.length_cons]; omega)
  | case4 => exact consumes_error (by decide)
  | case5 e text hnot n hn hback ih =>
      exact (ih.map _).longer (by simp only [List.length_cons]; omega)
  | case6 => exact consumes_error (by decide)
  | case7 => exact consumes_error (by decide)
  | case8 => exact consumes_error (by decide)
  | case9 c text hquote hback hcontrol ih =>
      exact (ih.map _).longer (by simp only [List.length_cons]; omega)

theorem spanDigits_length (text : List Char) : (spanDigits text).2.length ≤ text.length :=
  (List.dropWhile_sublist _).length_le

theorem scanInteger_shorter {digits rest : List Char} (h : scanInteger text = some (digits, rest)) :
    rest.length < text.length := by
  rw [scanInteger.eq_def] at h
  split at h
  · cases h
    simp
  · next c tail _ =>
      split at h
      · next hdigit =>
          rw [Option.some.injEq, spanDigits, Prod.mk.injEq] at h
          rw [← h.2, List.dropWhile_cons_of_pos hdigit]
          exact Nat.lt_succ_of_le (List.dropWhile_sublist _).length_le
      · cases h
  · cases h

theorem scanFraction_length (text : List Char) : (scanFraction text).2.length ≤ text.length := by
  rw [scanFraction.eq_def]
  split
  · next rest =>
      have hspan := spanDigits_length rest
      split
      · exact Nat.le_refl _
      · next heq =>
          rw [heq] at hspan
          exact Nat.le_succ_of_le hspan
  · exact Nat.le_refl _

theorem scanSign_length (text : List Char) : (scanSign text).2.length ≤ text.length := by
  rw [scanSign.eq_def]
  split <;> simp

theorem scanExponent_length (text : List Char) : (scanExponent text).2.length ≤ text.length := by
  rw [scanExponent.eq_def]
  split
  · next e rest =>
      have hspan := (spanDigits_length (scanSign rest).2).trans (scanSign_length rest)
      split
      · split
        · exact Nat.le_refl _
        · next heq =>
            rw [heq] at hspan
            exact Nat.le_succ_of_le hspan
      · exact Nat.le_refl _
  · exact Nat.le_refl _

theorem consumes_scanUnsigned (b : Builder V) (negative : Bool) (text : List Char) :
    Consumes text (scanUnsigned b negative text) := by
  rw [scanUnsigned]
  split
  · exact consumes_error (by decide)
  · next digits rest hinteger =>
      have hrest := scanInteger_shorter hinteger
      have hle := (scanExponent_length (scanFraction rest).2).trans (scanFraction_length rest)
      have hlt := Nat.lt_of_le_of_lt hle hrest
      dsimp only
      split
      · split
        · exact consumes_error (by decide)
        · exact consumes_ok hlt
      · exact consumes_ok hlt

theorem behind?_length {word rest : List Char} (h : behind? word text = some rest) :
    rest.length + word.length = text.length := by
  rw [behind?] at h
  split at h
  · next hprefix =>
      obtain ⟨tail, rfl⟩ := List.isPrefixOf_iff_prefix.mp hprefix
      rw [Option.some.injEq, List.drop_left] at h
      subst h
      rw [List.length_append, Nat.add_comm]
  · cases h

theorem consumes_word {w : String} (hw : w.toList ≠ []) (v : V) :
    Consumes text (scanSimple.word text w v) := by
  rw [scanSimple.word]
  split
  · next heq =>
      have hlength := behind?_length heq
      have hpos := List.length_pos_iff.mpr hw
      exact consumes_ok (by omega)
  · exact consumes_error (by decide)

theorem consumes_scanSimple (b : Builder V) (text : List Char) :
    Consumes text (scanSimple b text) := by
  rw [scanSimple.eq_def]
  split
  · next rest =>
      exact ((consumes_scanUnits rest).map fun units => b.str (joinUnits units)).longer
        (Nat.le_succ _)
  · exact consumes_word (by decide) _
  · exact consumes_word (by decide) _
  · exact consumes_word (by decide) _
  · exact consumes_word (by decide) _
  · exact consumes_word (by decide) _
  · split
    · next heq =>
        have hlength := behind?_length heq
        exact consumes_ok (by simp only [List.length_cons]; omega)
    · exact (consumes_scanUnsigned b true _).longer (by simp)
  · exact consumes_scanUnsigned b false _

variable {scan : List Char → Scan V}

theorem consumes_scanElements (hscan : ∀ text, Consumes text (scan text)) :
    ∀ fuel text, text.length < fuel → Consumes text (scanElements scan fuel text) := by
  intro fuel
  induction fuel with
  | zero => exact fun _ h => absurd h (Nat.not_lt_zero _)
  | succ fuel ih =>
      intro text hfuel
      rw [scanElements]
      cases hread : scan text with
      | error fault => exact consumes_error fun heq => (hscan text).fuel (heq ▸ hread)
      | ok read =>
          obtain ⟨v, rest⟩ := read
          have hlt := (hscan text).shorter v rest hread
          have hspace := length_skipSpace_le rest
          dsimp only
          split
          · next heq =>
              rw [heq, List.length_cons] at hspace
              exact consumes_ok (by omega)
          · next rest' heq =>
              rw [heq, List.length_cons] at hspace
              have hle := length_skipSpace_le rest'
              exact ((ih _ (by omega)).map _).longer (by omega)
          · exact consumes_error (by decide)

theorem consumes_scanKey (text : List Char) : Consumes text (scanKey text) := by
  rw [scanKey.eq_def]
  split
  · next tail =>
      cases hread : scanUnits tail with
      | error fault =>
          exact consumes_error fun heq => (consumes_scanUnits tail).fuel (heq ▸ hread)
      | ok read =>
          obtain ⟨units, rest⟩ := read
          have hlt := (consumes_scanUnits tail).shorter units rest hread
          have hspace := length_skipSpace_le rest
          dsimp only
          split
          · next rest' heq =>
              rw [heq, List.length_cons] at hspace
              have hle := length_skipSpace_le rest'
              exact consumes_ok (by simp only [List.length_cons]; omega)
          · exact consumes_error (by decide)
  · exact consumes_error (by decide)

theorem consumes_scanEntries (hscan : ∀ text, Consumes text (scan text)) :
    ∀ fuel text, text.length < fuel → Consumes text (scanEntries scan fuel text) := by
  intro fuel
  induction fuel with
  | zero => exact fun _ h => absurd h (Nat.not_lt_zero _)
  | succ fuel ih =>
      intro text hfuel
      rw [scanEntries]
      cases hkey : scanKey text with
      | error fault => exact consumes_error fun heq => (consumes_scanKey text).fuel (heq ▸ hkey)
      | ok read =>
          obtain ⟨key, rest⟩ := read
          have hbehind := (consumes_scanKey text).shorter key rest hkey
          dsimp only
          cases hread : scan rest with
          | error fault => exact consumes_error fun heq => (hscan rest).fuel (heq ▸ hread)
          | ok read =>
              obtain ⟨v, rest'⟩ := read
              have hlt := (hscan rest).shorter v rest' hread
              have hspace := length_skipSpace_le rest'
              dsimp only
              split
              · next heq =>
                  rw [heq, List.length_cons] at hspace
                  exact consumes_ok (by omega)
              · next tail heq =>
                  rw [heq, List.length_cons] at hspace
                  have hle := length_skipSpace_le tail
                  exact ((ih _ (by omega)).map _).longer (by omega)
              · exact consumes_error (by decide)

theorem consumes_scanArray (b : Builder V) (hscan : ∀ text, Consumes text (scan text))
    (c : Char) (text : List Char) : Consumes (c :: text) (scanArray b scan text) := by
  have hspace := length_skipSpace_le text
  rw [scanArray]
  split
  · next heq =>
      rw [heq, List.length_cons] at hspace
      exact consumes_ok (by simp only [List.length_cons]; omega)
  · exact ((consumes_scanElements hscan _ _ (Nat.lt_succ_self _)).map _).longer
      (Nat.le_succ_of_le hspace)

theorem consumes_scanObject (b : Builder V) (hscan : ∀ text, Consumes text (scan text))
    (c : Char) (text : List Char) : Consumes (c :: text) (scanObject b scan text) := by
  have hspace := length_skipSpace_le text
  rw [scanObject]
  split
  · next heq =>
      rw [heq, List.length_cons] at hspace
      exact consumes_ok (by simp only [List.length_cons]; omega)
  · exact ((consumes_scanEntries hscan _ _ (Nat.lt_succ_self (skipSpace text).length)).map
      fun entries => b.dict (Dict.empty.setAll entries)).longer (Nat.le_succ_of_le hspace)

theorem consumes_scanOnce (b : Builder V) (room : Nat) :
    ∀ text, Consumes text (scanOnce b room text) := by
  induction room with
  | zero =>
      intro text
      rw [scanOnce.eq_def]
      split
      · exact consumes_error (by decide)
      · exact consumes_error (by decide)
      · exact consumes_scanSimple b text
  | succ room ih =>
      intro text
      rw [scanOnce.eq_def]
      split
      · exact consumes_scanArray b ih _ _
      · exact consumes_scanObject b ih _ _
      · exact consumes_scanSimple b text

/-- The fuel suffices. -/
theorem loads_ne_fuel (b : Builder V) (room : Nat) (text : List Char) :
    loads b room text ≠ .error .fuel := by
  rw [loads]
  split
  · intro h
    cases h
  · have hconsumes := consumes_scanOnce b room (skipSpace text)
    cases hread : scanOnce b room (skipSpace text) with
    | error fault =>
        intro h
        cases h
        exact hconsumes.fuel hread
    | ok read =>
        intro h
        dsimp only at h
        split at h <;> cases h

end Consumes

end PythonJson

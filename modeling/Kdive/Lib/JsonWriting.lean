import Mathlib.Data.List.Chain
import Kdive.Lib.PythonJson
import Kdive.Lib.Utf8

/-!
# Writing JSON the way Python does

`write` is the text of a value as the encoder of Python's standard library writes it: in ASCII, with
a blank behind each comma and each colon.

*Round trip.*  Whatever a text is read into, the text of a value is read into that value
(`loads_write`), provided that its integers have no more digits than the reader takes and that it
is no deeper than the reader recurses.  In a string a high surrogate may not stand right before a
low one: the reader joins them.

*Continuation.*  The lemmas are about a value with a text behind it that is no part of a number.
-/

namespace PythonJson

open Dictionary

/-- A value.  A string is its code points, a float is as it is written. -/
inductive Json where
  | null
  | bool (b : Bool)
  | int (n : Int)
  | float (text : List Char)
  | str (points : List Nat)
  | list (items : List Json)
  | dict (entries : List (List Nat × Json))

/-! ## Writing -/

/-- Four hexadecimal digits. -/
def hexDigits (n : Nat) : List Char :=
  [Nat.digitChar (n / 4096 % 16), Nat.digitChar (n / 256 % 16), Nat.digitChar (n / 16 % 16),
    Nat.digitChar (n % 16)]

/-- A code unit, by its number. -/
def escapeUnit (n : Nat) : List Char := '\\' :: 'u' :: hexDigits n

/-- The code units of a code point. -/
def units (point : Nat) : List Nat :=
  if point < 0x10000 then [point]
  else [0xd800 + (point - 0x10000) / 0x400, 0xdc00 + (point - 0x10000) % 0x400]

/-- A code point in a string. -/
def escape (point : Nat) : List Char :=
  if point = 0x22 then ['\\', '"']
  else if point = 0x5c then ['\\', '\\']
  else if point = 0xa then ['\\', 'n']
  else if point = 0xd then ['\\', 'r']
  else if point = 0x9 then ['\\', 't']
  else if point = 0xc then ['\\', 'f']
  else if point = 0x8 then ['\\', 'b']
  else if 0x20 ≤ point ∧ point ≤ 0x7e then [Char.ofNat point]
  else (units point).flatMap escapeUnit

/-- A string behind its opening quote. -/
def writeUnits (points : List Nat) : List Char := points.flatMap escape ++ ['"']

/-- A string. -/
def writeString (points : List Nat) : List Char := '"' :: writeUnits points

/-- `int.__repr__` -/
def writeInt (n : Int) : List Char :=
  if n < 0 then '-' :: Nat.toDigits 10 n.natAbs else Nat.toDigits 10 n.natAbs

mutual

/-- `json.dumps` -/
def write : Json → List Char
  | .null => "null".toList
  | .bool true => "true".toList
  | .bool false => "false".toList
  | .int n => writeInt n
  | .float text => text
  | .str points => writeString points
  | .list [] => "[]".toList
  | .list (item :: items) => '[' :: (write item ++ writeItems items)
  | .dict [] => "\x7b\x7d".toList
  | .dict ((key, item) :: entries) =>
      '\x7b' :: (writeString key ++ ':' :: ' ' :: (write item ++ writeEntries entries))

/-- The items behind the first. -/
def writeItems : List Json → List Char
  | [] => [']']
  | item :: items => ',' :: ' ' :: (write item ++ writeItems items)

/-- The entries behind the first. -/
def writeEntries : List (List Nat × Json) → List Char
  | [] => ['\x7d']
  | (key, item) :: entries =>
      ',' :: ' ' :: (writeString key ++ ':' :: ' ' :: (write item ++ writeEntries entries))

end

/-! ## Strings are read back -/

/-- The reader joins the two. -/
def Joins (high low : Nat) : Prop := 0xd800 ≤ high ∧ high < 0xdc00 ∧ 0xdc00 ≤ low ∧ low < 0xe000

/-- The code points of a string that is read back as it is. -/
structure Plain (points : List Nat) : Prop where
  small : ∀ point ∈ points, point < 0x110000
  apart : points.IsChain fun high low => ¬ Joins high low

theorem plain_nil : Plain [] := ⟨nofun, .nil⟩

theorem Plain.tail {point : Nat} {points : List Nat} (h : Plain (point :: points)) :
    Plain points :=
  ⟨fun p hp => h.small p (List.mem_cons_of_mem _ hp), h.apart.of_cons⟩

/-- The characters of a text are such. -/
theorem plain_text (text : List Char) : Plain (text.map Char.toNat) := by
  constructor
  · intro point hpoint
    obtain ⟨c, -, rfl⟩ := List.mem_map.mp hpoint
    rcases Utf8.char_bounds c with h | h
    · omega
    · exact h.2
  · rw [List.isChain_map]
    refine (List.pairwise_of_forall fun c d hjoins => ?_).isChain
    unfold Joins at hjoins
    rcases Utf8.char_bounds c with h | h
    · omega
    · omega

theorem hexDigit?_digitChar {n : Nat} (h : n < 16) : hexDigit? (Nat.digitChar n) = some n := by
  have hall : ∀ n < 16, hexDigit? (Nat.digitChar n) = some n := by decide
  exact hall n h

theorem scanUnits_escapeUnit {n : Nat} (h : n < 0x10000) (text : List Char) :
    scanUnits (escapeUnit n ++ text) = push n (scanUnits text) := by
  have hvalue : hexValue? (Nat.digitChar (n / 4096 % 16)) (Nat.digitChar (n / 256 % 16))
      (Nat.digitChar (n / 16 % 16)) (Nat.digitChar (n % 16)) = some n := by
    unfold hexValue?
    rw [hexDigit?_digitChar (by omega), hexDigit?_digitChar (by omega),
      hexDigit?_digitChar (by omega), hexDigit?_digitChar (by omega)]
    show some _ = some n
    congr 1
    omega
  show scanUnits ('\\' :: 'u' :: _ :: _ :: _ :: _ :: text) = _
  rw [scanUnits, if_neg (by decide), if_pos rfl]
  simp only [hvalue]

/-- Code units in front. -/
theorem scanUnits_escapeUnits {ns : List Nat} (h : ∀ n ∈ ns, n < 0x10000) (text : List Char) :
    scanUnits (ns.flatMap escapeUnit ++ text) = ns.foldr push (scanUnits text) := by
  induction ns with
  | nil => rfl
  | cons n ns ih =>
      rw [List.flatMap_cons, List.append_assoc, scanUnits_escapeUnit (h n List.mem_cons_self),
        ih fun m hm => h m (List.mem_cons_of_mem _ hm), List.foldr_cons]

theorem units_lt {point : Nat} (h : point < 0x110000) : ∀ n ∈ units point, n < 0x10000 := by
  intro n hn
  unfold units at hn
  split at hn
  · rwa [List.mem_singleton.mp hn]
  · rcases List.mem_cons.mp hn with rfl | hn
    · omega
    · rw [List.mem_singleton.mp hn]
      omega

theorem units_of_lt {point : Nat} (h : point < 0x10000) : units point = [point] := if_pos h

/-- The closing quote. -/
theorem scanUnits_quote (text : List Char) : scanUnits ('"' :: text) = .ok ([], text) := by
  unfold scanUnits
  rfl

/-- A character that stands for itself. -/
theorem scanUnits_self {c : Char} (hquote : c ≠ '"') (hback : c ≠ '\\') (hshown : 0x20 ≤ c.toNat)
    (text : List Char) : scanUnits (c :: text) = push c.toNat (scanUnits text) := by
  rw [scanUnits.eq_def]
  dsimp only
  rw [if_neg hquote, if_neg hback, if_neg (Nat.not_lt.mpr hshown)]

/-- A character behind a backslash. -/
theorem scanUnits_back {c : Char} {n : Nat} (hc : c ≠ 'u') (h : escape? c = some n)
    (text : List Char) : scanUnits ('\\' :: c :: text) = push n (scanUnits text) := by
  rw [scanUnits.eq_3 _ _ _ fun _ _ _ _ _ heq => absurd heq hc, if_neg (by decide), if_pos rfl, h]

theorem scanUnits_escape {point : Nat} (h : point < 0x110000) (text : List Char) :
    scanUnits (escape point ++ text) = (units point).foldr push (scanUnits text) := by
  unfold escape
  split
  · next heq => subst heq; exact scanUnits_back (by decide) rfl text
  split
  · next heq => subst heq; exact scanUnits_back (by decide) rfl text
  split
  · next heq => subst heq; exact scanUnits_back (by decide) rfl text
  split
  · next heq => subst heq; exact scanUnits_back (by decide) rfl text
  split
  · next heq => subst heq; exact scanUnits_back (by decide) rfl text
  split
  · next heq => subst heq; exact scanUnits_back (by decide) rfl text
  split
  · next heq => subst heq; exact scanUnits_back (by decide) rfl text
  split
  · next hquote hback _ _ _ _ _ hshown =>
      have hall : ∀ n < 0x7f, (Char.ofNat n).toNat = n := by decide
      have htoNat : (Char.ofNat point).toNat = point := hall point (by omega)
      have hne : ∀ c : Char, point ≠ c.toNat → Char.ofNat point ≠ c := fun c hc heq =>
        hc (heq ▸ htoNat.symm)
      have hself := scanUnits_self (hne '"' hquote) (hne '\\' hback) (htoNat.symm ▸ hshown.1) text
      rw [units_of_lt (by omega)]
      rwa [htoNat] at hself
  · exact scanUnits_escapeUnits (units_lt h) text

theorem foldr_push (ns ms : List Nat) (rest : List Char) :
    ns.foldr push (.ok (ms, rest)) = .ok (ns ++ ms, rest) := by
  induction ns with
  | nil => rfl
  | cons n ns ih =>
      rw [List.foldr_cons, ih]
      rfl

theorem scanUnits_writeUnits {points : List Nat} (h : Plain points) (rest : List Char) :
    scanUnits (writeUnits points ++ rest) = .ok (points.flatMap units, rest) := by
  induction points with
  | nil =>
      exact scanUnits_quote rest
  | cons point points ih =>
      have hwrite : writeUnits (point :: points) = escape point ++ writeUnits points := by
        rw [writeUnits, List.flatMap_cons, List.append_assoc]
        rfl
      rw [hwrite, List.append_assoc, scanUnits_escape (h.small point List.mem_cons_self),
        ih h.tail, foldr_push, List.flatMap_cons]

theorem joinUnits_pair {high low : Nat} (h : Joins high low) (ns : List Nat) :
    joinUnits (high :: low :: ns) =
      (0x10000 + (high - 0xd800) * 0x400 + (low - 0xdc00)) :: joinUnits ns := by
  rw [joinUnits]
  exact if_pos h

theorem joinUnits_cons {unit : Nat} {ns : List Nat} (h : ∀ n, ns.head? = some n → ¬ Joins unit n) :
    joinUnits (unit :: ns) = unit :: joinUnits ns := by
  cases ns with
  | nil => rfl
  | cons n ns =>
      rw [joinUnits]
      exact if_neg (h n rfl)

/-- What stands in front of the units of a string. -/
theorem head?_units {points : List Nat} (h : Plain points) {n : Nat}
    (hn : (points.flatMap units).head? = some n) :
    points.head? = some n ∨ 0xd800 ≤ n ∧ n < 0xdc00 := by
  cases points with
  | nil => cases hn
  | cons point points =>
      have hsmall : point < 0x110000 := h.small point List.mem_cons_self
      rw [List.flatMap_cons] at hn
      unfold units at hn
      split at hn
      · exact .inl hn
      · have hhigh : 0xd800 + (point - 0x10000) / 0x400 = n := Option.some.inj hn
        exact .inr (by omega)

/-- The code units of a string are joined to its code points. -/
theorem joinUnits_units {points : List Nat} (h : Plain points) :
    joinUnits (points.flatMap units) = points := by
  induction points with
  | nil => rfl
  | cons point points ih =>
      have hsmall : point < 0x110000 := h.small point List.mem_cons_self
      rw [List.flatMap_cons]
      by_cases hunit : point < 0x10000
      · rw [units_of_lt hunit]
        refine (joinUnits_cons fun n hn => ?_).trans (congrArg _ (ih h.tail))
        rcases head?_units h.tail hn with hhead | hhigh
        · -- the next code point is a unit
          obtain ⟨rest, rfl⟩ := List.head?_eq_some_iff.mp hhead
          exact (List.isChain_cons_cons.mp h.apart).1
        · -- the next code point is a pair
          unfold Joins
          omega
      · have hpair : units point =
            [0xd800 + (point - 0x10000) / 0x400, 0xdc00 + (point - 0x10000) % 0x400] :=
          if_neg hunit
        have hjoins : Joins (0xd800 + (point - 0x10000) / 0x400)
            (0xdc00 + (point - 0x10000) % 0x400) := by
          unfold Joins
          omega
        have hpoint : 0x10000 + (0xd800 + (point - 0x10000) / 0x400 - 0xd800) * 0x400 +
            (0xdc00 + (point - 0x10000) % 0x400 - 0xdc00) = point := by omega
        rw [hpair, List.cons_append, List.cons_append, List.nil_append, joinUnits_pair hjoins,
          ih h.tail, hpoint]

/-! ## Numbers are read back -/

/-- The text does not go on with a digit. -/
def DigitsEnd (rest : List Char) : Prop := ∀ c, rest.head? = some c → c.isDigit = false

/-- The text does not go on with a number. -/
structure Ends (rest : List Char) : Prop where
  digits : DigitsEnd rest
  point : rest.head? ≠ some '.'
  exponent : rest.head? ≠ some 'e' ∧ rest.head? ≠ some 'E'

theorem ends_nil : Ends [] := ⟨nofun, nofun, nofun, nofun⟩

theorem digitsEnd_cons {c : Char} (h : c.isDigit = false) (rest : List Char) :
    DigitsEnd (c :: rest) := fun _ hc => Option.some.inj hc ▸ h

theorem spanDigits_append {digits rest : List Char} (h : ∀ c ∈ digits, c.isDigit = true)
    (hrest : DigitsEnd rest) : spanDigits (digits ++ rest) = (digits, rest) := by
  have hnone : rest.takeWhile Char.isDigit = [] ∧ rest.dropWhile Char.isDigit = rest := by
    cases rest with
    | nil => exact ⟨rfl, rfl⟩
    | cons c rest =>
        have hc : ¬ c.isDigit = true := by simp [hrest c rfl]
        exact ⟨List.takeWhile_cons_of_neg hc, List.dropWhile_cons_of_neg hc⟩
  rw [spanDigits, List.takeWhile_append_of_pos h, List.dropWhile_append_of_pos h, hnone.1, hnone.2,
    List.append_nil]

/-- The digits of an integer part: a zero by itself, or no zero in front. -/
structure Whole (text : List Char) : Prop where
  digits : ∀ c ∈ text, c.isDigit = true
  unpadded : text = ['0'] ∨ ∃ c rest, text = c :: rest ∧ c ≠ '0'

theorem toDigits_unpadded {n : Nat} (h : 0 < n) :
    ∃ c rest, Nat.toDigits 10 n = c :: rest ∧ c ≠ '0' := by
  induction n using Nat.strongRecOn with
  | _ n ih =>
      by_cases hn : n < 10
      · have hall : ∀ n < 10, 0 < n → Nat.digitChar n ≠ '0' := by decide
        exact ⟨_, [], Nat.toDigits_of_lt_base hn, hall n hn h⟩
      · obtain ⟨c, rest, hc, hne⟩ := ih (n / 10) (by omega) (by omega)
        rw [Nat.toDigits_of_base_le (by decide) (by omega), hc]
        exact ⟨c, _, rfl, hne⟩

theorem whole_toDigits (n : Nat) : Whole (Nat.toDigits 10 n) := by
  refine ⟨fun c hc => Nat.isDigit_of_mem_toDigits (by decide) (by decide) hc, ?_⟩
  rcases Nat.eq_zero_or_pos n with rfl | h
  · exact .inl (Nat.toDigits_zero 10)
  · exact .inr (toDigits_unpadded h)

theorem scanInteger_append {digits rest : List Char} (h : Whole digits) (hrest : DigitsEnd rest) :
    scanInteger (digits ++ rest) = some (digits, rest) := by
  rcases h.unpadded with rfl | ⟨c, digits, rfl, hc⟩
  · rfl
  · rw [List.cons_append, scanInteger.eq_2 _ _ hc, if_pos (h.digits c List.mem_cons_self),
      ← List.cons_append, spanDigits_append h.digits hrest]

/-- A fraction that is written, or none. -/
inductive IsFraction : List Char → Prop
  | absent : IsFraction []
  | written {digits : List Char} : digits ≠ [] → (∀ c ∈ digits, c.isDigit = true) →
      IsFraction ('.' :: digits)

/-- An exponent that is written, or none. -/
inductive IsExponent : List Char → Prop
  | absent : IsExponent []
  | written {e : Char} {sign digits : List Char} : e = 'e' ∨ e = 'E' →
      sign = [] ∨ sign = ['+'] ∨ sign = ['-'] → digits ≠ [] → (∀ c ∈ digits, c.isDigit = true) →
      IsExponent (e :: (sign ++ digits))

theorem scanFraction_append {fraction rest : List Char} (h : IsFraction fraction)
    (hrest : DigitsEnd rest) (hpoint : rest.head? ≠ some '.') :
    scanFraction (fraction ++ rest) = (fraction, rest) := by
  cases h with
  | absent => exact scanFraction.eq_2 rest fun rest' heq => hpoint (heq ▸ rfl)
  | @written digits hne hdigits =>
      rw [List.cons_append, scanFraction, spanDigits_append hdigits hrest]
      cases digits with
      | nil => exact absurd rfl hne
      | cons c digits => rfl

theorem scanExponent_append {exponent rest : List Char} (h : IsExponent exponent) (hrest : Ends rest) :
    scanExponent (exponent ++ rest) = (exponent, rest) := by
  cases h with
  | absent =>
      cases rest with
      | nil => rfl
      | cons c rest =>
          have hc : ¬ (c = 'e' ∨ c = 'E') := fun h => h.elim
            (fun h => hrest.exponent.1 (h ▸ rfl)) (fun h => hrest.exponent.2 (h ▸ rfl))
          exact if_neg hc
  | @written e sign digits he hsign hne hdigits =>
      have hspan := spanDigits_append hdigits hrest.digits
      have hsigned : scanSign (sign ++ digits ++ rest) = (sign, digits ++ rest) := by
        rcases hsign with rfl | rfl | rfl
        · cases digits with
          | nil => exact absurd rfl hne
          | cons c digits =>
              have hc : c.isDigit = true := hdigits c List.mem_cons_self
              refine scanSign.eq_3 _ (fun rest' heq => ?_) fun rest' heq => ?_
              · rw [(List.cons.inj heq).1] at hc
                cases hc
              · rw [(List.cons.inj heq).1] at hc
                cases hc
        · rfl
        · rfl
      rw [List.cons_append, scanExponent, if_pos he, hsigned, hspan]
      cases digits with
      | nil => exact absurd rfl hne
      | cons c digits => rfl

/-- The text of a float. -/
inductive FloatText : List Char → Prop
  | nan : FloatText "NaN".toList
  | infinity : FloatText "Infinity".toList
  | minusInfinity : FloatText "-Infinity".toList
  | number (negative : Bool) {digits fraction exponent : List Char} : Whole digits →
      IsFraction fraction → IsExponent exponent → ¬ (fraction = [] ∧ exponent = []) →
      FloatText ((if negative then ['-'] else []) ++ (digits ++ fraction ++ exponent))

section Numbers

variable {V : Type} (b : Builder V) {rest : List Char}

theorem ends_exponent {exponent : List Char} (h : IsExponent exponent) (hrest : Ends rest) :
    DigitsEnd (exponent ++ rest) ∧ (exponent ++ rest).head? ≠ some '.' := by
  cases h with
  | absent => exact ⟨hrest.digits, hrest.point⟩
  | written he hsign hne hdigits =>
      rcases he with rfl | rfl
      · exact ⟨digitsEnd_cons rfl _, by simp⟩
      · exact ⟨digitsEnd_cons rfl _, by simp⟩

theorem ends_fraction {fraction : List Char} (h : IsFraction fraction) (hrest : DigitsEnd rest) :
    DigitsEnd (fraction ++ rest) := by
  cases h with
  | absent => exact hrest
  | written hne hdigits => exact digitsEnd_cons rfl _

/-- A number behind its sign. -/
theorem scanUnsigned_append (negative : Bool) {digits fraction exponent : List Char}
    (hdigits : Whole digits) (hfraction : IsFraction fraction) (hexponent : IsExponent exponent)
    (hrest : Ends rest) :
    scanUnsigned b negative (digits ++ fraction ++ exponent ++ rest) =
      if fraction = [] ∧ exponent = [] then
        if maxDigits < digits.length then .error .tooManyDigits
        else .ok (b.int (if negative then -(Nat.ofDigitChars 10 digits 0 : Int)
          else Nat.ofDigitChars 10 digits 0), rest)
      else
        .ok (b.float (if negative then '-' :: (digits ++ fraction ++ exponent)
          else digits ++ fraction ++ exponent), rest) := by
  obtain ⟨hend, hpoint⟩ := ends_exponent hexponent hrest
  have hwhole : scanInteger (digits ++ fraction ++ exponent ++ rest) =
      some (digits, fraction ++ (exponent ++ rest)) := by
    rw [List.append_assoc, List.append_assoc]
    exact scanInteger_append hdigits (ends_fraction hfraction hend)
  rw [scanUnsigned, hwhole]
  dsimp only
  rw [scanFraction_append hfraction hend hpoint]
  dsimp only
  rw [scanExponent_append hexponent hrest]

/-- A number begins with a digit. -/
theorem Whole.head {digits : List Char} (h : Whole digits) :
    ∃ c rest, digits = c :: rest ∧ c.isDigit = true := by
  rcases h.unpadded with rfl | ⟨c, rest, rfl, -⟩
  · exact ⟨'0', [], rfl, rfl⟩
  · exact ⟨c, rest, rfl, h.digits c List.mem_cons_self⟩

theorem scanSimple_digit {c : Char} (h : c.isDigit = true) (text : List Char) :
    scanSimple b (c :: text) = scanUnsigned b false (c :: text) := by
  have hne : ∀ d : Char, d.isDigit = false → c ≠ d := fun d hd heq => by
    rw [heq, hd] at h
    cases h
  unfold scanSimple
  split
  · next heq => exact absurd (List.cons.inj heq).1 (hne _ rfl)
  · next heq => exact absurd (List.cons.inj heq).1 (hne _ rfl)
  · next heq => exact absurd (List.cons.inj heq).1 (hne _ rfl)
  · next heq => exact absurd (List.cons.inj heq).1 (hne _ rfl)
  · next heq => exact absurd (List.cons.inj heq).1 (hne _ rfl)
  · next heq => exact absurd (List.cons.inj heq).1 (hne _ rfl)
  · next heq => exact absurd (List.cons.inj heq).1 (hne _ rfl)
  · rfl

theorem scanSimple_dash {c : Char} (h : c.isDigit = true) (text : List Char) :
    scanSimple b ('-' :: c :: text) = scanUnsigned b true (c :: text) := by
  have hne : c ≠ 'I' := by
    rintro rfl
    cases h
  have hnone : behind? "Infinity".toList (c :: text) = none := by
    refine if_neg fun hprefix => ?_
    exact hne (List.cons_prefix_cons.mp (List.isPrefixOf_iff_prefix.mp hprefix)).1.symm
  simp only [scanSimple, hnone]

/-- A number is read with its sign. -/
theorem scanSimple_signed (negative : Bool) {digits : List Char} (hdigits : Whole digits)
    (text : List Char) :
    scanSimple b ((if negative then ['-'] else []) ++ (digits ++ text)) =
      scanUnsigned b negative (digits ++ text) := by
  obtain ⟨c, rest, rfl, hc⟩ := hdigits.head
  cases negative with
  | false => exact scanSimple_digit b hc _
  | true => exact scanSimple_dash b hc _

theorem behind?_append (word text : List Char) : behind? word (word ++ text) = some text := by
  rw [behind?, if_pos (List.isPrefixOf_iff_prefix.mpr (List.prefix_append word text)),
    List.drop_left]

theorem scanSimple_float {text : List Char} (h : FloatText text) (hrest : Ends rest) :
    scanSimple b (text ++ rest) = .ok (b.float text, rest) := by
  cases h with
  | nan => rfl
  | infinity => rfl
  | minusInfinity => rfl
  | number negative hdigits hfraction hexponent hne =>
      rw [List.append_assoc, List.append_assoc, List.append_assoc, scanSimple_signed b negative hdigits,
        ← List.append_assoc, ← List.append_assoc,
        scanUnsigned_append b negative hdigits hfraction hexponent hrest, if_neg hne]
      cases negative <;> rfl

theorem scanSimple_int {n : Int} (h : (Nat.toDigits 10 n.natAbs).length ≤ maxDigits)
    (hrest : Ends rest) : scanSimple b (writeInt n ++ rest) = .ok (b.int n, rest) := by
  have hwhole := whole_toDigits n.natAbs
  have hwrite : writeInt n = (if n < 0 then ['-'] else []) ++ Nat.toDigits 10 n.natAbs := by
    unfold writeInt
    split <;> rfl
  have hread : ∀ negative, scanUnsigned b negative (Nat.toDigits 10 n.natAbs ++ rest) =
      .ok (b.int (if negative then -(n.natAbs : Int) else n.natAbs), rest) := by
    intro negative
    have := scanUnsigned_append b negative hwhole .absent .absent hrest
    rw [List.append_nil, List.append_nil, if_pos ⟨rfl, rfl⟩, if_neg (Nat.not_lt.mpr h),
      Nat.ofDigitChars_ten_toDigits] at this
    exact this
  rw [hwrite, List.append_assoc]
  by_cases hneg : n < 0
  · have hsigned := scanSimple_signed b true hwhole rest
    rw [if_pos hneg]
    refine hsigned.trans ((hread true).trans ?_)
    rw [if_pos rfl, Int.ofNat_natAbs_of_nonpos (by omega), Int.neg_neg]
  · have hsigned := scanSimple_signed b false hwhole rest
    rw [if_neg hneg]
    refine hsigned.trans ((hread false).trans ?_)
    rw [if_neg (by decide), Int.natAbs_of_nonneg (by omega)]

end Numbers

/-! ## Values are read back -/

namespace Json

variable {V : Type} (b : Builder V)

mutual

/-- What a reader builds. -/
def build : Json → V
  | .null => b.null
  | .bool value => b.bool value
  | .int n => b.int n
  | .float text => b.float text
  | .str points => b.str points
  | .list items => b.list (buildItems items)
  | .dict entries => b.dict (Dict.empty.setAll (buildEntries entries))

def buildItems : List Json → List V
  | [] => []
  | item :: items => build item :: buildItems items

def buildEntries : List (List Nat × Json) → List (List Nat × V)
  | [] => []
  | (key, item) :: entries => (key, build item) :: buildEntries entries

end

mutual

/-- How deep containers are nested. -/
def depth : Json → Nat
  | .list items => depthItems items + 1
  | .dict entries => depthEntries entries + 1
  | _ => 0

def depthItems : List Json → Nat
  | [] => 0
  | item :: items => max (depth item) (depthItems items)

def depthEntries : List (List Nat × Json) → Nat
  | [] => 0
  | (_, item) :: entries => max (depth item) (depthEntries entries)

end

mutual

/-- A value that is read back. -/
def Proper : Json → Prop
  | .int n => (Nat.toDigits 10 n.natAbs).length ≤ maxDigits
  | .float text => FloatText text
  | .str points => Plain points
  | .list items => ProperItems items
  | .dict entries => ProperEntries entries
  | _ => True

def ProperItems : List Json → Prop
  | [] => True
  | item :: items => Proper item ∧ ProperItems items

def ProperEntries : List (List Nat × Json) → Prop
  | [] => True
  | (key, item) :: entries => Plain key ∧ Proper item ∧ ProperEntries entries

end

end Json

section Values

variable {V : Type} {b : Builder V} {rest : List Char}

theorem ends_cons {c : Char} (hdigit : c.isDigit = false) (hc : c ≠ '.' ∧ c ≠ 'e' ∧ c ≠ 'E')
    (text : List Char) : Ends (c :: text) := by
  refine ⟨digitsEnd_cons hdigit text, fun h => hc.1 (Option.some.inj h),
    fun h => hc.2.1 (Option.some.inj h), fun h => hc.2.2 (Option.some.inj h)⟩

theorem ends_items (items : List Json) (rest : List Char) : Ends (writeItems items ++ rest) := by
  cases items with
  | nil => exact ends_cons rfl (by decide) _
  | cons item items => exact ends_cons rfl (by decide) _

theorem ends_entries (entries : List (List Nat × Json)) (rest : List Char) :
    Ends (writeEntries entries ++ rest) := by
  cases entries with
  | nil => exact ends_cons rfl (by decide) _
  | cons entry entries => exact ends_cons rfl (by decide) _

/-- The first character of a value: no blank and no bracket that closes. -/
def Opens (text : List Char) : Prop :=
  ∃ c rest, text = c :: rest ∧ isSpace c = false ∧ c ≠ ']' ∧ c ≠ '\ufeff'

theorem opens_cons {c : Char} (hspace : isSpace c = false) (hc : c ≠ ']' ∧ c ≠ '\ufeff')
    (text : List Char) : Opens (c :: text) := ⟨c, text, rfl, hspace, hc.1, hc.2⟩

theorem Opens.append {text : List Char} (h : Opens text) (rest : List Char) :
    Opens (text ++ rest) := by
  obtain ⟨c, text, rfl, hspace, hc⟩ := h
  exact ⟨c, text ++ rest, rfl, hspace, hc⟩

theorem Opens.skipSpace {text : List Char} (h : Opens text) : skipSpace text = text := by
  obtain ⟨c, text, rfl, hspace, -⟩ := h
  exact List.dropWhile_cons_of_neg (by simp [hspace])

theorem Whole.opens {digits : List Char} (h : Whole digits) : Opens digits := by
  obtain ⟨c, rest, rfl, hc⟩ := h.head
  have hne : ∀ d : Char, d.isDigit = false → c ≠ d := fun d hd heq => by
    rw [heq, hd] at hc
    cases hc
  refine opens_cons ?_ ⟨hne _ rfl, hne _ rfl⟩ rest
  simp [isSpace, hne ' ' rfl, hne '\t' rfl, hne '\n' rfl, hne '\r' rfl]

theorem Whole.opens_signed {digits : List Char} (h : Whole digits) (negative : Bool)
    (rest : List Char) : Opens ((if negative then ['-'] else []) ++ (digits ++ rest)) := by
  cases negative with
  | false => exact h.opens.append rest
  | true => exact opens_cons rfl (by decide) _

theorem opens_write {v : Json} (h : v.Proper) : Opens (write v) := by
  cases v with
  | null => exact opens_cons rfl (by decide) _
  | bool value => cases value <;> exact opens_cons rfl (by decide) _
  | int n =>
      rw [write, writeInt]
      split
      · exact opens_cons rfl (by decide) _
      · exact (whole_toDigits n.natAbs).opens
  | float text =>
      rw [Json.Proper] at h
      rw [write]
      cases h with
      | nan => exact opens_cons rfl (by decide) _
      | infinity => exact opens_cons rfl (by decide) _
      | minusInfinity => exact opens_cons rfl (by decide) _
      | number negative hdigits _ _ _ =>
          rw [List.append_assoc]
          exact hdigits.opens_signed negative _
  | str points => exact opens_cons rfl (by decide) _
  | list items => cases items <;> exact opens_cons rfl (by decide) _
  | dict entries => cases entries <;> exact opens_cons rfl (by decide) _

/-- The text opens no container. -/
def Flat (text : List Char) : Prop := text.head? ≠ some '[' ∧ text.head? ≠ some '\x7b'

/-- A value that is no container is read by itself. -/
theorem scanOnce_flat {room : Nat} {text : List Char} (h : Flat text) :
    scanOnce b room text = scanSimple b text := by
  unfold scanOnce
  split
  · exact absurd rfl h.1
  · exact absurd rfl h.2
  · rfl

theorem flat_cons {c : Char} (h : c ≠ '[' ∧ c ≠ '\x7b') (text : List Char) : Flat (c :: text) :=
  ⟨fun heq => h.1 (Option.some.inj heq), fun heq => h.2 (Option.some.inj heq)⟩

theorem Whole.flat_signed {digits : List Char} (h : Whole digits) (negative : Bool)
    (rest : List Char) : Flat ((if negative then ['-'] else []) ++ (digits ++ rest)) := by
  obtain ⟨c, digits, rfl, hc⟩ := h.head
  have hne : ∀ d : Char, d.isDigit = false → c ≠ d := fun d hd heq => by
    rw [heq, hd] at hc
    cases hc
  cases negative with
  | false => exact flat_cons ⟨hne _ rfl, hne _ rfl⟩ _
  | true => exact flat_cons (by decide) _

theorem flat_int (n : Int) (rest : List Char) : Flat (writeInt n ++ rest) := by
  rw [writeInt]
  split
  · exact (whole_toDigits n.natAbs).flat_signed true rest
  · exact (whole_toDigits n.natAbs).flat_signed false rest

theorem FloatText.flat {text : List Char} (h : FloatText text) (rest : List Char) :
    Flat (text ++ rest) := by
  cases h with
  | nan => exact flat_cons (by decide) _
  | infinity => exact flat_cons (by decide) _
  | minusInfinity => exact flat_cons (by decide) _
  | number negative hdigits _ _ _ =>
      rw [List.append_assoc, List.append_assoc, List.append_assoc]
      exact hdigits.flat_signed negative _

theorem scanSimple_string {points : List Nat} (h : Plain points) (rest : List Char) :
    scanSimple b (writeString points ++ rest) = .ok (b.str points, rest) := by
  show (scanUnits (writeUnits points ++ rest)).map _ = _
  rw [scanUnits_writeUnits h]
  show Except.ok (b.str (joinUnits (points.flatMap units)), rest) = _
  rw [joinUnits_units h]

theorem scanKey_writeString {key : List Nat} (h : Plain key) {text : List Char}
    (htext : Opens text) :
    scanKey (writeString key ++ ':' :: ' ' :: text) = .ok (key, text) := by
  have hcolon : skipSpace (':' :: ' ' :: text) = ':' :: ' ' :: text := rfl
  have hskip : skipSpace (' ' :: text) = text :=
    (List.dropWhile_cons_of_pos rfl).trans htext.skipSpace
  show scanKey ('"' :: (writeUnits key ++ ':' :: ' ' :: text)) = _
  simp only [scanKey, scanUnits_writeUnits h, hcolon, hskip, joinUnits_units h]

theorem length_le_writeItems (items : List Json) : items.length < (writeItems items).length := by
  induction items with
  | nil => exact Nat.zero_lt_one
  | cons item items ih =>
      rw [writeItems]
      simp only [List.length_cons, List.length_append]
      omega

theorem length_le_writeEntries (entries : List (List Nat × Json)) :
    entries.length < (writeEntries entries).length := by
  induction entries with
  | nil => exact Nat.zero_lt_one
  | cons entry entries ih =>
      rw [writeEntries]
      simp only [List.length_cons, List.length_append]
      omega

/-- An array that is not empty. -/
theorem scanArray_opens {scan : List Char → Scan V} {text : List Char} (h : Opens text)
    {vs : List V} (hread : scanElements scan (text.length + 1) text = .ok (vs, rest)) :
    scanArray b scan text = .ok (b.list vs, rest) := by
  have hskip := h.skipSpace
  obtain ⟨c, text, rfl, -, hc, -⟩ := h
  unfold scanArray
  rw [hskip]
  split
  · next heq => exact absurd (List.cons.inj heq).1 hc
  · rw [hread]
    rfl

/-- An object that is not empty. -/
theorem scanObject_key {scan : List Char → Scan V} {key : List Nat} {text : List Char}
    {entries : List (List Nat × V)}
    (hread : scanEntries scan ((writeString key ++ text).length + 1) (writeString key ++ text) =
      .ok (entries, rest)) :
    scanObject b scan (writeString key ++ text) =
      .ok (b.dict (Dict.empty.setAll entries), rest) := by
  show (scanEntries scan ((writeString key ++ text).length + 1) (writeString key ++ text)).map _ = _
  rw [hread]
  rfl

/-- The first of several elements. -/
theorem scanElements_cons {scan : List Char → Scan V} {fuel : Nat} {text next : List Char} {v : V}
    {vs : List V} (hfirst : scan text = .ok (v, ',' :: ' ' :: next)) (hnext : Opens next)
    (hread : scanElements scan fuel next = .ok (vs, rest)) :
    scanElements scan (fuel + 1) text = .ok (v :: vs, rest) := by
  have hskip : skipSpace (' ' :: next) = next :=
    (List.dropWhile_cons_of_pos rfl).trans hnext.skipSpace
  have hcomma : skipSpace (',' :: ' ' :: next) = ',' :: ' ' :: next := rfl
  rw [scanElements, hfirst]
  dsimp only
  rw [hcomma]
  show (scanElements scan fuel (skipSpace (' ' :: next))).map _ = _
  rw [hskip, hread]
  rfl

/-- The first of several entries. -/
theorem scanEntries_cons {scan : List Char → Scan V} {fuel : Nat} {text next : List Char}
    {key : List Nat} {v : V} {entries : List (List Nat × V)} (hkey : Plain key) (htext : Opens text)
    (hfirst : scan text = .ok (v, ',' :: ' ' :: next)) (hnext : Opens next)
    (hread : scanEntries scan fuel next = .ok (entries, rest)) :
    scanEntries scan (fuel + 1) (writeString key ++ ':' :: ' ' :: text) =
      .ok ((key, v) :: entries, rest) := by
  have hskip : skipSpace (' ' :: next) = next :=
    (List.dropWhile_cons_of_pos rfl).trans hnext.skipSpace
  have hcomma : skipSpace (',' :: ' ' :: next) = ',' :: ' ' :: next := rfl
  rw [scanEntries, scanKey_writeString hkey htext]
  dsimp only
  rw [hfirst]
  dsimp only
  rw [hcomma]
  show (scanEntries scan fuel (skipSpace (' ' :: next))).map _ = _
  rw [hskip, hread]
  rfl

mutual

/-- A value is read back, with whatever stands behind it. -/
theorem scanOnce_write : ∀ (v : Json) {room : Nat} {rest : List Char}, v.Proper → v.depth ≤ room →
    Ends rest → scanOnce b room (write v ++ rest) = .ok (v.build b, rest)
  | .null, _, rest, _, _, _ => scanOnce_flat (flat_cons (by decide) _)
  | .bool true, _, _, _, _, _ => scanOnce_flat (flat_cons (by decide) _)
  | .bool false, _, _, _, _, _ => scanOnce_flat (flat_cons (by decide) _)
  | .int n, _, rest, h, _, hrest => by
      rw [Json.Proper] at h
      exact (scanOnce_flat (flat_int n rest)).trans (scanSimple_int b h hrest)
  | .float text, _, rest, h, _, hrest => by
      rw [Json.Proper] at h
      exact (scanOnce_flat (h.flat rest)).trans (scanSimple_float b h hrest)
  | .str points, _, rest, h, _, _ => by
      rw [Json.Proper] at h
      exact (scanOnce_flat (flat_cons (by decide) _)).trans (scanSimple_string h rest)
  | .list [], room + 1, rest, _, _, _ => rfl
  | .dict [], room + 1, rest, _, _, _ => rfl
  | .list (item :: items), room + 1, rest, h, hroom, _ => by
      rw [Json.Proper, Json.ProperItems] at h
      rw [Json.depth, Json.depthItems] at hroom
      have hopens := (opens_write h.1).append (writeItems items ++ rest)
      have hread : scanElements (scanOnce b room)
          ((write item ++ (writeItems items ++ rest)).length + 1)
          (write item ++ (writeItems items ++ rest)) =
            .ok (item.build b :: Json.buildItems b items, rest) := by
        refine scanElements_write items h.2 (by omega) ?_ fun rest hrest =>
          scanOnce_write item h.1 (by omega) hrest
        have := length_le_writeItems items
        simp only [List.length_append]
        omega
      rw [write, List.cons_append, List.append_assoc]
      exact scanArray_opens hopens hread
  | .dict ((key, item) :: entries), room + 1, rest, h, hroom, _ => by
      rw [Json.Proper, Json.ProperEntries] at h
      rw [Json.depth, Json.depthEntries] at hroom
      have hread : scanEntries (scanOnce b room)
          ((writeString key ++ ':' :: ' ' :: (write item ++ (writeEntries entries ++ rest))).length + 1)
          (writeString key ++ ':' :: ' ' :: (write item ++ (writeEntries entries ++ rest))) =
            .ok ((key, item.build b) :: Json.buildEntries b entries, rest) := by
        refine scanEntries_write entries h.2.2 h.1 (opens_write h.2.1) (by omega) ?_ fun rest hrest =>
          scanOnce_write item h.2.1 (by omega) hrest
        have := length_le_writeEntries entries
        simp only [List.length_append, List.length_cons]
        omega
      rw [write, List.cons_append, List.append_assoc, List.cons_append, List.cons_append,
        List.append_assoc]
      exact scanObject_key hread

theorem scanElements_write : ∀ (items : List Json) {room fuel : Nat} {rest text : List Char} {v : V},
    Json.ProperItems items → Json.depthItems items ≤ room → items.length < fuel →
      (∀ rest, Ends rest → scanOnce b room (text ++ rest) = .ok (v, rest)) →
        scanElements (scanOnce b room) fuel (text ++ (writeItems items ++ rest)) =
          .ok (v :: Json.buildItems b items, rest)
  | [], _, fuel + 1, rest, text, v, _, _, _, hfirst => by
      rw [scanElements, hfirst _ (ends_items [] rest)]
      rfl
  | item :: items, room, fuel + 1, rest, text, v, h, hroom, hfuel, hfirst => by
      rw [Json.ProperItems] at h
      rw [Json.depthItems] at hroom
      have hread : scanElements (scanOnce b room) fuel (write item ++ (writeItems items ++ rest)) =
          .ok (item.build b :: Json.buildItems b items, rest) :=
        scanElements_write items h.2 (by omega) (Nat.lt_of_succ_lt_succ hfuel)
          fun rest hrest => scanOnce_write item h.1 (by omega) hrest
      have hscan := hfirst _ (ends_items (item :: items) rest)
      rw [writeItems, List.cons_append, List.cons_append, List.append_assoc] at hscan ⊢
      exact scanElements_cons hscan ((opens_write h.1).append _) hread

theorem scanEntries_write : ∀ (entries : List (List Nat × Json)) {room fuel : Nat}
    {rest text : List Char} {key : List Nat} {v : V},
    Json.ProperEntries entries → Plain key → Opens text → Json.depthEntries entries ≤ room →
      entries.length < fuel →
      (∀ rest, Ends rest → scanOnce b room (text ++ rest) = .ok (v, rest)) →
        scanEntries (scanOnce b room) fuel
            (writeString key ++ ':' :: ' ' :: (text ++ (writeEntries entries ++ rest))) =
          .ok ((key, v) :: Json.buildEntries b entries, rest)
  | [], _, fuel + 1, rest, text, key, v, _, hkey, hopens, _, _, hfirst => by
      rw [scanEntries, scanKey_writeString hkey (hopens.append _)]
      dsimp only
      rw [hfirst _ (ends_entries [] rest)]
      rfl
  | (key', item) :: entries, room, fuel + 1, rest, text, key, v, h, hkey, hopens, hroom, hfuel,
      hfirst => by
      rw [Json.ProperEntries] at h
      rw [Json.depthEntries] at hroom
      have hread : scanEntries (scanOnce b room) fuel
          (writeString key' ++ ':' :: ' ' :: (write item ++ (writeEntries entries ++ rest))) =
            .ok ((key', item.build b) :: Json.buildEntries b entries, rest) :=
        scanEntries_write entries h.2.2 h.1 (opens_write h.2.1) (by omega)
          (Nat.lt_of_succ_lt_succ hfuel) fun rest hrest => scanOnce_write item h.2.1 (by omega) hrest
      have hscan := hfirst _ (ends_entries ((key', item) :: entries) rest)
      rw [writeEntries, List.cons_append, List.cons_append, List.append_assoc, List.cons_append,
        List.cons_append, List.append_assoc] at hscan ⊢
      exact scanEntries_cons hkey (hopens.append _) hscan (opens_cons rfl (by decide) _) hread

end

/-- The text of a value is read into that value. -/
theorem loads_write {v : Json} (h : v.Proper) {room : Nat} (hroom : v.depth ≤ room) :
    loads b room (write v) = .ok (v.build b) := by
  have hread := scanOnce_write (b := b) v h hroom ends_nil
  rw [List.append_nil] at hread
  have hopens := opens_write h
  have hskip := hopens.skipSpace
  have hmark : (write v).head? ≠ some '\ufeff' := by
    obtain ⟨c, rest, heq, -, -, hc⟩ := hopens
    rw [heq]
    exact fun h => hc (Option.some.inj h)
  rw [loads, if_neg hmark, hskip, hread]
  rfl

end Values

/-! ## Values that are read as values -/

namespace Json

/-- What is read is a value again. -/
def builder : Builder Json where
  null := .null
  bool := .bool
  int := .int
  float := .float
  str := .str
  list := .list
  dict d := .dict d.entries

mutual

/-- No object has two entries of one key. -/
def Distinct : Json → Prop
  | .list items => DistinctItems items
  | .dict entries => (entries.map Prod.fst).Nodup ∧ DistinctEntries entries
  | _ => True

def DistinctItems : List Json → Prop
  | [] => True
  | item :: items => Distinct item ∧ DistinctItems items

def DistinctEntries : List (List Nat × Json) → Prop
  | [] => True
  | (_, item) :: entries => Distinct item ∧ DistinctEntries entries

end

theorem entries_setAll_empty {V : Type} {entries : List (List Nat × V)}
    (h : (entries.map Prod.fst).Nodup) : (Dict.empty.setAll entries).entries = entries :=
  Dict.entries_setAll h fun _ _ => by simp [Dict.keys, Dict.empty]

mutual

theorem build_builder : ∀ v : Json, v.Distinct → v.build builder = v
  | .null, _ | .bool _, _ | .int _, _ | .float _, _ | .str _, _ => rfl
  | .list items, h => by
      rw [Distinct] at h
      rw [build, buildItems_builder items h]
      rfl
  | .dict entries, h => by
      rw [Distinct] at h
      rw [build, buildEntries_builder entries h.2]
      exact congrArg Json.dict (entries_setAll_empty h.1)

theorem buildItems_builder : ∀ items, DistinctItems items → buildItems builder items = items
  | [], _ => rfl
  | item :: items, h => by
      rw [DistinctItems] at h
      rw [buildItems, build_builder item h.1, buildItems_builder items h.2]

theorem buildEntries_builder :
    ∀ entries, DistinctEntries entries → buildEntries builder entries = entries
  | [], _ => rfl
  | (key, item) :: entries, h => by
      rw [DistinctEntries] at h
      rw [buildEntries, build_builder item h.1, buildEntries_builder entries h.2]

end

end Json

end PythonJson

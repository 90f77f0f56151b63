import Mathlib.Data.Char
import Mathlib.Data.List.TakeWhile
import Kdive.Lib.Association

/-!
# Numbers in a text

`isdigit` and `int` of Python, with the digits of Unicode 14 (Python 3.11).

*Digits*.  Not every digit counts as a decimal: `isdigit` takes superscripts and digits
in circles, and `int` does not.  `int` takes a sign, single underscores between digits,
and no more than `MAX_STR_DIGITS` digits.  `int_isSome` says when it raises on a text
whose characters behind its dashes are digits, and `int_toDigits` that it reads back what
`str` writes.
-/

namespace PythonInt

/-! ## Digits -/

/-- The zeros of the runs of ten decimal digits. -/
def zeros : List Nat :=
  [0x30, 0x660, 0x6f0, 0x7c0, 0x966, 0x9e6, 0xa66, 0xae6, 0xb66, 0xbe6, 0xc66, 0xce6, 0xd66,
    0xde6, 0xe50, 0xed0, 0xf20, 0x1040, 0x1090, 0x17e0, 0x1810, 0x1946, 0x19d0, 0x1a80, 0x1a90,
    0x1b50, 0x1bb0, 0x1c40, 0x1c50, 0xa620, 0xa8d0, 0xa900, 0xa9d0, 0xa9f0, 0xaa50, 0xabf0,
    0xff10, 0x104a0, 0x10d30, 0x11066, 0x110f0, 0x11136, 0x111d0, 0x112f0, 0x11450, 0x114d0,
    0x11650, 0x116c0, 0x11730, 0x118e0, 0x11950, 0x11c50, 0x11d50, 0x11da0, 0x16a60, 0x16ac0,
    0x16b50, 0x1d7ce, 0x1d7d8, 0x1d7e2, 0x1d7ec, 0x1d7f6, 0x1e140, 0x1e2f0, 0x1e950, 0x1fbf0]

/-- The first and the last of each run of digits that are no decimals. -/
def otherDigits : List (Nat × Nat) :=
  [(0xb2, 0xb3), (0xb9, 0xb9), (0x1369, 0x1371), (0x19da, 0x19da), (0x2070, 0x2070),
    (0x2074, 0x2079), (0x2080, 0x2089), (0x2460, 0x2468), (0x2474, 0x247c), (0x2488, 0x2490),
    (0x24ea, 0x24ea), (0x24f5, 0x24fd), (0x24ff, 0x24ff), (0x2776, 0x277e), (0x2780, 0x2788),
    (0x278a, 0x2792), (0x10a40, 0x10a43), (0x10e60, 0x10e68), (0x11052, 0x1105a),
    (0x1f100, 0x1f10a)]

/-- The value of a decimal. -/
def decimal (c : Char) : Option Nat :=
  (zeros.find? fun first => first ≤ c.toNat && c.toNat < first + 10).map (c.toNat - ·)

/-- A character that `isdigit` takes. -/
def isDigitChar (c : Char) : Bool :=
  (decimal c).isSome || otherDigits.any fun run => run.1 ≤ c.toNat && c.toNat ≤ run.2

/-- `str.isdigit` -/
def isdigit (text : List Char) : Bool := !text.isEmpty && text.all isDigitChar

/-- The digits of ASCII are decimals. -/
theorem decimal_of_isDigit {c : Char} (h : c.isDigit = true) :
    decimal c = some (c.toNat - '0'.toNat) := by
  have hrange : 0x30 ≤ c.toNat ∧ c.toNat < 0x30 + 10 := by
    simp only [Char.isDigit, Bool.and_eq_true, decide_eq_true_eq, ge_iff_le, UInt32.le_iff_toNat_le] at h
    exact ⟨h.1, Nat.lt_succ_of_le h.2⟩
  rw [decimal, zeros, List.find?_cons_of_pos (by simpa using hrange)]
  rfl

theorem isDigitChar_of_decimal {c : Char} (h : (decimal c).isSome = true) :
    isDigitChar c = true := by
  rw [isDigitChar, h, Bool.true_or]

theorem not_isDigitChar_underscore : isDigitChar '_' = false := by decide

theorem not_isDigitChar_plus : isDigitChar '+' = false := by decide

theorem not_isDigitChar_dash : isDigitChar '-' = false := by decide

/-! ## Numbers -/

/-- `sys.int_info.default_max_str_digits` -/
def MAX_STR_DIGITS : Nat := 4300

/-- The number that decimals spell. -/
def value (digits : List Char) : Nat :=
  (digits.filterMap decimal).foldl (fun n digit => 10 * n + digit) 0

/-- A number without a sign. -/
def natOf (text : List Char) : Option Nat :=
  let groups := text.splitOn '_'
  if [] ∉ groups ∧ (∀ c ∈ groups.flatten, (decimal c).isSome = true) ∧
      groups.flatten.length ≤ MAX_STR_DIGITS then
    some (value groups.flatten)
  else none

/-- `int(text)` of a text that has no blanks, if it does not raise. -/
def int : List Char → Option Int
  | '-' :: text => (natOf text).map Int.negOfNat
  | '+' :: text => (natOf text).map Int.ofNat
  | text => (natOf text).map Int.ofNat

/-- Decimals, and not too many. -/
def isDecimals (digits : List Char) : Bool :=
  !digits.isEmpty && digits.all (fun c => (decimal c).isSome) &&
    decide (digits.length ≤ MAX_STR_DIGITS)

/-- Decimals behind a dash, or without one. -/
def isNumeral : List Char → Bool
  | '-' :: digits => isDecimals digits
  | digits => isDecimals digits

/-- A text without underscores is one group. -/
theorem natOf_eq {text : List Char} (h : '_' ∉ text) :
    natOf text = if isDecimals text = true then some (value text) else none := by
  have hsplit : text.splitOn '_' = [text] := by
    refine List.splitOnP_eq_singleton fun c hc => ?_
    exact beq_false_of_ne fun heq => h (heq ▸ hc)
  have hflat : [text].flatten = text := List.append_nil text
  have hiff : ([] ∉ [text] ∧ (∀ c ∈ text, (decimal c).isSome = true) ∧
      text.length ≤ MAX_STR_DIGITS) ↔ isDecimals text = true := by
    simp only [isDecimals, Bool.and_eq_true, List.all_eq_true, decide_eq_true_eq, and_assoc,
      Bool.not_eq_true', List.isEmpty_eq_false_iff, List.mem_singleton, ne_comm, ne_eq]
  simp only [natOf, hsplit, hflat, hiff]

theorem natOf_isSome {text : List Char} (h : '_' ∉ text) :
    (natOf text).isSome = isDecimals text := by
  rw [natOf_eq h]
  cases isDecimals text <;> rfl

/-- Nothing but dashes and digits. -/
theorem dash_or_digit {text : List Char} (h : isdigit (text.dropWhile (· = '-')) = true) :
    ∀ c ∈ text, c = '-' ∨ isDigitChar c = true := by
  intro c hc
  rw [← List.takeWhile_append_dropWhile (p := (· = '-')) (l := text)] at hc
  rcases List.mem_append.mp hc with hc | hc
  · exact .inl (by simpa using List.mem_takeWhile_imp hc)
  · rw [isdigit, Bool.and_eq_true, List.all_eq_true] at h
    exact .inr (h.2 c hc)

/-- Behind any dashes digits stand: the number can be read if it is a numeral. -/
theorem int_isSome {text : List Char} (h : isdigit (text.dropWhile (· = '-')) = true) :
    (int text).isSome = isNumeral text := by
  have hchar := dash_or_digit h
  have hunder : '_' ∉ text := fun hmem => by
    rcases hchar _ hmem with heq | hdigit
    · exact absurd heq (by decide)
    · rw [not_isDigitChar_underscore] at hdigit
      cases hdigit
  unfold int
  split
  · rw [Option.isSome_map, natOf_isSome fun hmem => hunder (List.mem_cons_of_mem _ hmem)]
    rfl
  · rcases hchar '+' List.mem_cons_self with heq | hdigit
    · exact absurd heq (by decide)
    · rw [not_isDigitChar_plus] at hdigit
      cases hdigit
  · rename_i hdash _
    rw [Option.isSome_map, natOf_isSome hunder]
    unfold isNumeral
    split
    · exact absurd rfl (hdash _)
    · rfl

/-- A numeral has digits behind its dash. -/
theorem isdigit_of_isNumeral {text : List Char} (h : isNumeral text = true) :
    isdigit (text.dropWhile (· = '-')) = true := by
  have hdecimals : ∀ digits, isDecimals digits = true →
      isdigit (digits.dropWhile (· = '-')) = true := by
    intro digits hdigits
    simp only [isDecimals, Bool.and_eq_true, List.all_eq_true] at hdigits
    obtain ⟨⟨hne, hall⟩, _⟩ := hdigits
    have hdrop : digits.dropWhile (· = '-') = digits := by
      cases digits with
      | nil => rfl
      | cons c digits =>
          refine List.dropWhile_cons_of_neg fun hdash => ?_
          have hsome := hall c List.mem_cons_self
          rw [of_decide_eq_true hdash] at hsome
          exact absurd hsome (by decide)
    rw [hdrop, isdigit, hne, Bool.true_and, List.all_eq_true]
    exact fun c hc => isDigitChar_of_decimal (hall c hc)
  unfold isNumeral at h
  split at h
  · rw [List.dropWhile_cons_of_pos (by decide)]
    exact hdecimals _ h
  · exact hdecimals _ h

/-! ## Written numbers -/

/-- The digits of a number that was written. -/
theorem isDigit_toDigits {n : Nat} {c : Char} (hc : c ∈ Nat.toDigits 10 n) : c.isDigit = true :=
  Nat.isDigit_of_mem_toDigits (by decide) (by decide) hc

theorem isdigit_toDigits (n : Nat) : isdigit (Nat.toDigits 10 n) = true := by
  rw [isdigit, Bool.and_eq_true, List.all_eq_true]
  refine ⟨by simp, fun c hc => isDigitChar_of_decimal ?_⟩
  rw [decimal_of_isDigit (isDigit_toDigits hc)]
  rfl

theorem value_toDigits (n : Nat) : value (Nat.toDigits 10 n) = n := by
  have hdigits : ∀ digits : List Char, (∀ c ∈ digits, c.isDigit = true) →
      digits.filterMap decimal = digits.map fun c => c.toNat - '0'.toNat := by
    intro digits hall
    induction digits with
    | nil => rfl
    | cons c digits ih =>
        rw [List.filterMap_cons_some (decimal_of_isDigit (hall c List.mem_cons_self)),
          ih fun d hd => hall d (List.mem_cons_of_mem _ hd)]
        rfl
  rw [value, hdigits _ fun c hc => isDigit_toDigits hc, List.foldl_map]
  exact Nat.ofDigitChars_ten_toDigits

/-- A written number is read, unless it has too many digits. -/
theorem int_toDigits (n : Nat) :
    int (Nat.toDigits 10 n) =
      if (Nat.toDigits 10 n).length ≤ MAX_STR_DIGITS then some (n : Int) else none := by
  have hnot : ∀ c, c.isDigit = false → c ∉ Nat.toDigits 10 n := fun c hc hmem => by
    rw [isDigit_toDigits hmem] at hc
    cases hc
  have hdecimals : isDecimals (Nat.toDigits 10 n) =
      decide ((Nat.toDigits 10 n).length ≤ MAX_STR_DIGITS) := by
    have hall : (Nat.toDigits 10 n).all (fun c => (decimal c).isSome) = true :=
      List.all_eq_true.mpr fun c hc => by rw [decimal_of_isDigit (isDigit_toDigits hc)]; rfl
    have hne : (Nat.toDigits 10 n).isEmpty = false := by simp
    rw [isDecimals, hne, hall]
    rfl
  have hnat : natOf (Nat.toDigits 10 n) =
      if (Nat.toDigits 10 n).length ≤ MAX_STR_DIGITS then some n else none := by
    rw [natOf_eq (hnot '_' (by decide)), hdecimals, value_toDigits]
    simp only [decide_eq_true_eq]
  have hint : int (Nat.toDigits 10 n) = (natOf (Nat.toDigits 10 n)).map Int.ofNat := by
    have hdash := hnot '-' (by decide)
    have hplus := hnot '+' (by decide)
    generalize Nat.toDigits 10 n = digits at hdash hplus
    unfold int
    split
    · exact absurd List.mem_cons_self hdash
    · exact absurd List.mem_cons_self hplus
    · rfl
  rw [hint, hnat]
  split <;> rfl

end PythonInt

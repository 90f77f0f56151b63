import Mathlib.Data.Nat.Digits.Defs
import Mathlib.Tactic.IntervalCases

/-!
# Moments in ISO 8601

A moment is a number of microseconds since the beginning of 1970, in UTC.  `isoformat`
writes its date, its time of day, a fraction of six digits unless that is zero, and the
offset.

`Before` says of two texts that the first comes before the second in the order of
texts, and that neither begins with the other.  `before_isoformat` says that `isoformat`
takes an earlier moment to a text before, as long as a year has four digits.
-/

namespace IsoTime

/-! ## The calendar -/

/-- A date of the Gregorian calendar. -/
structure Date where
  year : Nat
  month : Nat
  day : Nat
deriving DecidableEq, Repr

/-- A leap year. -/
def isLeap (year : Nat) : Bool := year % 4 = 0 && (year % 100 ≠ 0 || year % 400 = 0)

/-- The days of a month. -/
def daysIn (year month : Nat) : Nat :=
  if month = 2 then (if isLeap year then 29 else 28)
  else if month ∈ [4, 6, 9, 11] then 30
  else 31

namespace Date

/-- The next day. -/
def next (date : Date) : Date :=
  if date.day < daysIn date.year date.month then { date with day := date.day + 1 }
  else if date.month < 12 then ⟨date.year, date.month + 1, 1⟩
  else ⟨date.year + 1, 1, 1⟩

/-- One date is earlier than another. -/
def Lt (first second : Date) : Prop :=
  first.year < second.year ∨ (first.year = second.year ∧
    (first.month < second.month ∨ (first.month = second.month ∧ first.day < second.day)))

theorem Lt.trans {first second third : Date} (h : first.Lt second) (h' : second.Lt third) :
    first.Lt third := by
  simp only [Lt] at *
  omega

theorem lt_next (date : Date) : date.Lt date.next := by
  rw [next]
  split
  · simp [Lt]
  · split <;> simp [Lt]

/-- A date of the calendar. -/
def Valid (date : Date) : Prop :=
  1 ≤ date.month ∧ date.month ≤ 12 ∧ 1 ≤ date.day ∧ date.day ≤ daysIn date.year date.month

theorem daysIn_bounds (year month : Nat) : 28 ≤ daysIn year month ∧ daysIn year month ≤ 31 := by
  rw [daysIn]
  split
  · split <;> omega
  · split <;> omega

theorem Valid.next {date : Date} (h : date.Valid) : date.next.Valid := by
  obtain ⟨hmonth, hyear, hday, hlast⟩ := h
  rw [Date.next]
  split
  · rename_i hbefore
    exact ⟨hmonth, hyear, Nat.le_add_left 1 _, hbefore⟩
  · split
    · rename_i hbefore
      exact ⟨by simp, hbefore, by simp, (by omega : 1 ≤ 28).trans (daysIn_bounds _ _).1⟩
    · exact ⟨by simp, by simp, by simp, (by omega : 1 ≤ 28).trans (daysIn_bounds _ _).1⟩

end Date

/-- The date so many days after the first of January 1970. -/
def dateOf : Nat → Date
  | 0 => ⟨1970, 1, 1⟩
  | days + 1 => (dateOf days).next

theorem valid_dateOf (days : Nat) : (dateOf days).Valid := by
  induction days with
  | zero => exact ⟨by decide, by decide, by decide, by decide⟩
  | succ days ih => exact ih.next

theorem dateOf_lt {m n : Nat} (h : m < n) : (dateOf m).Lt (dateOf n) := by
  induction h with
  | refl => exact Date.lt_next _
  | step _ ih => exact ih.trans (Date.lt_next _)

/-- The days of a common year in front of a month. -/
def daysBefore (month : Nat) : Nat :=
  [0, 0, 31, 59, 90, 120, 151, 181, 212, 243, 273, 304, 334].getD month 0

theorem daysBefore_succ_le {year month : Nat} (h : 1 ≤ month) (h' : month < 12) :
    daysBefore (month + 1) ≤ daysBefore month + daysIn year month := by
  interval_cases month <;> simp [daysBefore, daysIn]
  split <;> omega

/-- A year takes 365 days at least. -/
theorem year_le (days : Nat) :
    365 * (dateOf days).year + daysBefore (dateOf days).month + (dateOf days).day ≤
      365 * 1970 + 1 + days := by
  induction days with
  | zero => decide
  | succ days ih =>
      obtain ⟨hmonth, hyear, -, hlast⟩ := valid_dateOf days
      rw [dateOf, Date.next]
      generalize dateOf days = date at *
      split
      · dsimp only
        omega
      · split
        · rename_i hbefore
          have := @daysBefore_succ_le date.year date.month hmonth hbefore
          dsimp only
          omega
        · rename_i hend hbefore
          have htwelve : date.month = 12 := by omega
          have hdays : daysIn date.year 12 = 31 := by simp [daysIn]
          have hjanuary : daysBefore 1 = 0 := rfl
          have hdecember : daysBefore 12 = 334 := rfl
          rw [htwelve, hdays] at hend
          rw [htwelve, hdecember] at ih
          dsimp only
          omega

theorem year_lt {days : Nat} (h : days < 2930000) : (dateOf days).year < 10000 := by
  have := year_le days
  omega

/-! ## The order of texts -/

/-- Up to some place the texts are the same, and there the first has the lower character. -/
def Before (first second : List Char) : Prop :=
  ∃ same c d rest rest', first = same ++ c :: rest ∧ second = same ++ d :: rest' ∧ c.toNat < d.toNat

theorem Before.append {first second : List Char} (h : Before first second) (rest rest' : List Char) :
    Before (first ++ rest) (second ++ rest') := by
  obtain ⟨same, c, d, tail, tail', rfl, rfl, hlt⟩ := h
  exact ⟨same, c, d, tail ++ rest, tail' ++ rest', by simp, by simp, hlt⟩

theorem Before.prepend {first second : List Char} (h : Before first second) (same : List Char) :
    Before (same ++ first) (same ++ second) := by
  obtain ⟨start, c, d, tail, tail', rfl, rfl, hlt⟩ := h
  exact ⟨same ++ start, c, d, tail, tail', by simp, by simp, hlt⟩

theorem Before.cons {first second : List Char} (h : Before first second) (c : Char) :
    Before (c :: first) (c :: second) := h.prepend [c]

/-! ## Numbers -/

/-- The last digits of a number, with zeros in front. -/
def digits : Nat → Nat → List Char
  | 0, _ => []
  | width + 1, n => digits width (n / 10) ++ [Nat.digitChar (n % 10)]

theorem digitChar_lt {a b : Nat} (h : a < b) (hb : b < 10) :
    (Nat.digitChar a).toNat < (Nat.digitChar b).toNat := by
  interval_cases b <;> interval_cases a <;> decide

theorem before_digits {width m n : Nat} (h : m < n) (hn : n < 10 ^ width) :
    Before (digits width m) (digits width n) := by
  induction width generalizing m n with
  | zero =>
      rw [Nat.pow_zero] at hn
      omega
  | succ width ih =>
      rw [digits, digits]
      rcases (Nat.div_le_div_right h.le : m / 10 ≤ n / 10).lt_or_eq with hlt | heq
      · exact (ih hlt (by rw [Nat.pow_succ] at hn; omega)).append _ _
      · rw [heq]
        exact Before.prepend ⟨[], _, _, [], [], rfl, rfl, digitChar_lt (by omega) (by omega)⟩ _

/-! ## Moments -/

/-- `YYYY-MM-DD`. -/
def showDate (date : Date) : List Char :=
  digits 4 date.year ++ '-' :: (digits 2 date.month ++ '-' :: digits 2 date.day)

/-- `HH:MM:SS`. -/
def showTime (seconds : Nat) : List Char :=
  digits 2 (seconds / 3600) ++ ':' :: (digits 2 (seconds / 60 % 60) ++ ':' :: digits 2 (seconds % 60))

/-- `.ffffff`, unless it is zero. -/
def showFraction (micros : Nat) : List Char := if micros = 0 then [] else '.' :: digits 6 micros

/-- A moment. -/
def isoformat (micros : Nat) : List Char :=
  showDate (dateOf (micros / 1000000 / 86400)) ++ 'T' :: (showTime (micros / 1000000 % 86400) ++
    (showFraction (micros % 1000000) ++ ['+', '0', '0', ':', '0', '0']))

theorem before_showDate {first second : Date} (h : first.Lt second) (hsecond : second.Valid)
    (hyear : second.year < 10000) :
    Before (showDate first) (showDate second) := by
  have hday := (Date.daysIn_bounds second.year second.month).2
  obtain ⟨-, hmonth, -, hlast⟩ := hsecond
  rcases h with h | ⟨hsame, h | ⟨hsame', h⟩⟩
  · exact (before_digits h hyear).append _ _
  · rw [showDate, showDate, hsame]
    exact (((before_digits h (by omega)).append _ _).cons _).prepend _
  · rw [showDate, showDate, hsame, hsame']
    exact ((((before_digits h (by omega)).cons _).prepend _).cons _).prepend _

theorem before_showTime {m n : Nat} (h : m < n) (hn : n < 86400) :
    Before (showTime m) (showTime n) := by
  rw [showTime, showTime]
  rcases (Nat.div_le_div_right h.le : m / 3600 ≤ n / 3600).lt_or_eq with hlt | heq
  · exact (before_digits hlt (by omega)).append _ _
  · rw [heq]
    rcases (by omega : m / 60 % 60 ≤ n / 60 % 60).lt_or_eq with hlt | heq'
    · exact (((before_digits hlt (by omega)).append _ _).cons _).prepend _
    · rw [heq']
      exact ((((before_digits (by omega) (by omega)).cons _).prepend _).cons _).prepend _

/-- An offset comes before a fraction. -/
theorem before_showFraction {m n : Nat} (h : m < n) (hn : n < 1000000) (rest : List Char) :
    Before (showFraction m ++ '+' :: rest) (showFraction n ++ '+' :: rest) := by
  rw [showFraction, showFraction, if_neg (by omega : n ≠ 0)]
  split
  · exact ⟨[], '+', '.', rest, digits 6 n ++ '+' :: rest, rfl, rfl, by decide⟩
  · exact ((before_digits h hn).cons _).append _ _

/-- The moment up to which a year has four digits, at least. -/
def fourDigits : Nat := 2930000 * 86400 * 1000000

/-- An earlier moment is written to a text before. -/
theorem before_isoformat {m n : Nat} (h : m < n) (hn : n < fourDigits) :
    Before (isoformat m) (isoformat n) := by
  rw [fourDigits] at hn
  rw [isoformat, isoformat]
  rcases (by omega : m / 1000000 / 86400 ≤ n / 1000000 / 86400).lt_or_eq with hlt | heq
  · exact (before_showDate (dateOf_lt hlt) (valid_dateOf _)
      (year_lt (by omega))).append _ _
  · rw [heq]
    rcases (by omega : m / 1000000 % 86400 ≤ n / 1000000 % 86400).lt_or_eq with hlt | heq'
    · exact (((before_showTime hlt (by omega)).append _ _).cons _).prepend _
    · rw [heq']
      exact (((before_showFraction (by omega) (by omega) _).prepend _).cons _).prepend _

end IsoTime

import Mathlib.Data.List.Infix
import Mathlib.Data.List.TakeWhile

/-!
# Patterns of runs

A regular expression that is a row of characters and runs: `(\d+)` or `\s*` or `.*?`.
Each item has a class of characters, and a run has a least length.  A matcher with
backtracking tries the lengths of a run in order, the longest first or, for a lazy run,
the shortest first, and takes the first one behind which the other items match.

A run that cannot be too long is as long as it can be (`matchAt_run`).  A lazy run is as
short as it can be (`matchAt_lazy`).
-/

namespace Pattern

/-- A part of a pattern. -/
inductive Item where
  /-- One character of a class. -/
  | one (p : Char → Bool)
  /-- At least so many characters of a class, as many as possible or as few as possible,
  kept as a group or not. -/
  | run (p : Char → Bool) (least : Nat) (greedy keep : Bool)

/-- These characters. -/
def literal (text : List Char) : List Item := text.map fun c => .one (· = c)

/-- The groups of the first match at the start of a text. -/
def matchAt : List Item → List Char → Option (List (List Char))
  | [], _ => some []
  | .one _ :: _, [] => none
  | .one p :: items, c :: text => if p c then matchAt items text else none
  | .run p least greedy keep :: items, text =>
      let lengths := List.range' least ((text.takeWhile p).length + 1 - least)
      (if greedy then lengths.reverse else lengths).findSome? fun n =>
        (matchAt items (text.drop n)).map fun groups =>
          if keep then text.take n :: groups else groups

/-- `search`: the groups of the leftmost match. -/
def search (items : List Item) : List Char → Option (List (List Char))
  | [] => matchAt items []
  | c :: text => (matchAt items (c :: text)).or (search items text)

/-- Whether an item is kept as a group. -/
def Item.isGroup : Item → Bool
  | .one _ => false
  | .run _ _ _ keep => keep

variable {p : Char → Bool} {items : List Item} {text word rest : List Char}
  {groups : List (List Char)} {least : Nat} {keep : Bool}

/-! ## Matching -/

theorem matchAt_one {c : Char} (hc : p c = true) :
    matchAt (.one p :: items) (c :: text) = matchAt items text := by
  rw [matchAt, if_pos hc]

/-- A character matches itself. -/
theorem matchAt_char (c : Char) :
    matchAt (.one (fun d => decide (d = c)) :: items) (c :: text) = matchAt items text :=
  matchAt_one (decide_eq_true rfl)

theorem matchAt_one_of_not (h : ∀ c ∈ text.head?, p c = false) :
    matchAt (.one p :: items) text = none := by
  cases text with
  | nil => rfl
  | cons c text => rw [matchAt, h c rfl, if_neg (by simp)]

theorem matchAt_literal (word : List Char) :
    matchAt (literal word ++ items) (word ++ rest) = matchAt items rest := by
  induction word with
  | nil => rfl
  | cons c word ih =>
      show matchAt (.one (· = c) :: (literal word ++ items)) (c :: (word ++ rest)) = _
      rw [matchAt_one (decide_eq_true rfl), ih]

/-- Where the characters do not stand nothing matches. -/
theorem matchAt_literal_of_not (h : ¬ word <+: text) :
    matchAt (literal word ++ items) text = none := by
  induction word generalizing text with
  | nil => exact absurd List.nil_prefix h
  | cons c word ih =>
      show matchAt (.one (· = c) :: (literal word ++ items)) text = none
      cases text with
      | nil => rfl
      | cons d text =>
          rw [matchAt]
          split
          · have hcd : d = c := of_decide_eq_true ‹_›
            exact ih fun hprefix => h (hcd ▸ List.cons_prefix_cons.mpr ⟨rfl, hprefix⟩)
          · rfl

/-- A match has the groups that are kept. -/
theorem length_matchAt (h : matchAt items text = some groups) :
    groups.length = items.countP Item.isGroup := by
  induction items generalizing text groups with
  | nil =>
      obtain rfl := Option.some.inj h
      rfl
  | cons item items ih =>
      cases item with
      | one p =>
          cases text with
          | nil => cases h
          | cons c text =>
              rw [matchAt] at h
              obtain ⟨-, h⟩ := Option.ite_none_right_eq_some.mp h
              exact ih h
      | run p least greedy keep =>
          rw [matchAt] at h
          obtain ⟨n, -, hn⟩ := List.exists_of_findSome?_eq_some h
          obtain ⟨others, hothers, rfl⟩ := Option.map_eq_some_iff.mp hn
          cases keep with
          | false => exact ih hothers
          | true =>
              rw [List.countP_cons_of_pos rfl]
              exact congrArg (· + 1) (ih hothers)

theorem takeWhile_word (hword : ∀ c ∈ word, p c = true) (hrest : ∀ c ∈ rest.head?, p c = false) :
    (word ++ rest).takeWhile p = word := by
  rw [List.takeWhile_append_of_pos hword]
  cases rest with
  | nil => rw [List.takeWhile_nil, List.append_nil]
  | cons c rest => rw [List.takeWhile_cons_of_neg (by simp [hrest c rfl]), List.append_nil]

/-- A run that ends where its class does, and behind it the other items match. -/
theorem matchAt_run (hword : ∀ c ∈ word, p c = true) (hrest : ∀ c ∈ rest.head?, p c = false)
    (hleast : least ≤ word.length) (h : matchAt items rest = some groups) :
    matchAt (.run p least true keep :: items) (word ++ rest) =
      some (if keep then word :: groups else groups) := by
  have hlengths : (List.range' least (word.length + 1 - least)).reverse =
      word.length :: (List.range' least (word.length - least)).reverse := by
    have hsub : word.length + 1 - least = word.length - least + 1 := by omega
    have hsum : least + 1 * (word.length - least) = word.length := by omega
    rw [hsub, List.range'_concat, List.reverse_append, List.reverse_singleton, hsum]
    rfl
  rw [matchAt, takeWhile_word hword hrest]
  simp only [if_true]
  rw [hlengths, List.findSome?_cons, List.drop_left, h, Option.map_some, List.take_left]

/-- A lazy run in whose middle the other items do not match. -/
theorem matchAt_lazy (hword : ∀ c ∈ word, p c = true)
    (hnot : ∀ n < word.length, matchAt items ((word ++ rest).drop n) = none)
    (h : matchAt items rest = some groups) :
    matchAt (.run p 0 false keep :: items) (word ++ rest) =
      some (if keep then word :: groups else groups) := by
  obtain ⟨extra, hextra⟩ : ∃ extra, ((word ++ rest).takeWhile p).length + 1 - 0 =
      word.length + (1 + extra) := by
    rw [List.takeWhile_append_of_pos hword, List.length_append]
    exact ⟨(rest.takeWhile p).length, by omega⟩
  have hshort : (List.range' 0 word.length).findSome? (fun n =>
      (matchAt items ((word ++ rest).drop n)).map fun groups =>
        if keep then (word ++ rest).take n :: groups else groups) = none := by
    refine List.findSome?_eq_none_iff.mpr fun n hn => ?_
    have hlt : n < word.length := by simpa using hn
    rw [hnot n hlt, Option.map_none]
  rw [matchAt, hextra]
  simp only [Bool.false_eq_true, if_false]
  rw [← List.range'_append_1, List.findSome?_append, hshort, Option.none_or, Nat.zero_add,
    Nat.add_comm 1 extra, List.range'_succ, List.findSome?_cons, List.drop_left, h, Option.map_some,
    List.take_left]

/-! ## Searching -/

theorem search_of_matchAt (h : matchAt items text = some groups) :
    search items text = some groups := by
  cases text with
  | nil => exact h
  | cons c text => rw [search, h, Option.some_or]

theorem length_search (h : search items text = some groups) :
    groups.length = items.countP Item.isGroup := by
  induction text with
  | nil => exact length_matchAt h
  | cons c text ih =>
      rw [search] at h
      rcases Option.or_eq_some_iff.mp h with h | ⟨-, h⟩
      · exact length_matchAt h
      · exact ih h

/-- What cannot begin a match is passed over. -/
theorem search_skip (hword : ∀ c ∈ word, p c = false) (text : List Char) :
    search (.one p :: items) (word ++ text) = search (.one p :: items) text := by
  induction word with
  | nil => rfl
  | cons c word ih =>
      have hnone : matchAt (.one p :: items) (c :: (word ++ text)) = none :=
        matchAt_one_of_not fun d hd => hword d (Option.mem_some.mp hd ▸ List.mem_cons_self)
      rw [List.cons_append, search, hnone, Option.none_or]
      exact ih fun d hd => hword d (List.mem_cons_of_mem _ hd)

/-- Without a character that begins a match there is none. -/
theorem search_none (h : ∀ c ∈ text, p c = false) : search (.one p :: items) text = none := by
  have hskip : search (.one p :: items) (text ++ []) = none := search_skip h []
  rwa [List.append_nil] at hskip

end Pattern

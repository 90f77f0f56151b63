import Mathlib.Algebra.GroupWithZero.Nat
import Mathlib.Data.List.Induction

/-!
# UTF-8, with replacement

`decode` reads octets as UTF-8.  Octets that belong to no character are read as the
replacement character, one for each maximal start of a character.  It is a machine
that takes one octet at a time.  Between octets it knows how many are owed, the bits
read so far, and between which bounds the next octet must lie.

`encode` writes characters, and `decode_encode` says they are read back.
-/

namespace Utf8

/-- The replacement character. -/
def replacement : Char := '\ufffd'

/-- Where the machine stands between octets. -/
inductive State where
  /-- Between characters. -/
  | idle
  /-- In a character that still needs some octets, the next one between two bounds. -/
  | pending (need bits low high : Nat)
deriving DecidableEq

/-- The first octet of a character: the characters it completes and the state after it. -/
def start (b : Nat) : List Char × State :=
  if b < 0x80 then ([Char.ofNat b], .idle)
  else if 0xc2 ≤ b ∧ b ≤ 0xdf then ([], .pending 1 (b - 0xc0) 0x80 0xbf)
  else if b = 0xe0 then ([], .pending 2 0 0xa0 0xbf)
  else if b = 0xed then ([], .pending 2 0xd 0x80 0x9f)
  else if 0xe1 ≤ b ∧ b ≤ 0xef then ([], .pending 2 (b - 0xe0) 0x80 0xbf)
  else if b = 0xf0 then ([], .pending 3 0 0x90 0xbf)
  else if b = 0xf4 then ([], .pending 3 4 0x80 0x8f)
  else if 0xf1 ≤ b ∧ b ≤ 0xf3 then ([], .pending 3 (b - 0xf0) 0x80 0xbf)
  else ([replacement], .idle)

/-- One octet.  One that does not fit ends the character and may start the next. -/
def step : State → Nat → List Char × State
  | .idle, b => start b
  | .pending need bits low high, b =>
      if low ≤ b ∧ b ≤ high then
        if need = 1 then ([Char.ofNat (bits * 64 + (b - 0x80))], .idle)
        else ([], .pending (need - 1) (bits * 64 + (b - 0x80)) 0x80 0xbf)
      else (replacement :: (start b).1, (start b).2)

/-- Read octets from a state. -/
def decodeFrom : State → List Nat → List Char
  | .idle, [] => []
  | .pending .., [] => [replacement]
  | state, b :: octets => (step state b).1 ++ decodeFrom (step state b).2 octets

/-- Read octets. -/
def decode (octets : List Nat) : List Char := decodeFrom .idle octets

/-- The octets of a character. -/
def encodeChar (c : Char) : List Nat :=
  let n := c.toNat
  if n < 0x80 then [n]
  else if n < 0x800 then [0xc0 + n / 64, 0x80 + n % 64]
  else if n < 0x10000 then [0xe0 + n / 4096, 0x80 + n / 64 % 64, 0x80 + n % 64]
  else [0xf0 + n / 262144, 0x80 + n / 4096 % 64, 0x80 + n / 64 % 64, 0x80 + n % 64]

/-- The octets of a text. -/
def encode (text : List Char) : List Nat := text.flatMap encodeChar

@[simp] theorem decodeFrom_cons (state : State) (b : Nat) (octets : List Nat) :
    decodeFrom state (b :: octets) = (step state b).1 ++ decodeFrom (step state b).2 octets := by
  cases state <;> rfl

/-- The text that some octets encode, if there is one. -/
def decodeStrict (octets : List Nat) : Option (List Char) :=
  if encode (decode octets) = octets then some (decode octets) else none

/-- An octet that fits is taken into the character. -/
theorem step_fits {need bits low high b : Nat} (hlow : low ≤ b) (hhigh : b ≤ high) :
    step (.pending need bits low high) b =
      if need = 1 then ([Char.ofNat (bits * 64 + (b - 0x80))], .idle)
      else ([], .pending (need - 1) (bits * 64 + (b - 0x80)) 0x80 0xbf) := by
  rw [step, if_pos ⟨hlow, hhigh⟩]

theorem char_bounds (c : Char) : c.toNat < 0xd800 ∨ 0xdfff < c.toNat ∧ c.toNat < 0x110000 := by
  have h : c.toNat.isValidChar := c.valid
  unfold Nat.isValidChar at h
  omega

/-- The first octet of a character of two. -/
theorem start_two {bits : Nat} (hlow : 2 ≤ bits) (hhigh : bits < 32) :
    start (0xc0 + bits) = ([], .pending 1 bits 0x80 0xbf) := by
  unfold start
  rw [if_neg (by omega), if_pos (by omega), Nat.add_sub_cancel_left]

/-- The first octet of a character of three, and the bounds of the second. -/
theorem start_three {bits : Nat} (h : bits < 16) :
    start (0xe0 + bits) =
      ([], .pending 2 bits (if bits = 0 then 0xa0 else 0x80) (if bits = 13 then 0x9f else 0xbf)) := by
  unfold start
  rw [if_neg (by omega), if_neg (by omega)]
  by_cases hzero : bits = 0
  · subst hzero
    rfl
  · rw [if_neg (by omega), if_neg hzero]
    by_cases hthirteen : bits = 13
    · subst hthirteen
      rfl
    · rw [if_neg (by omega), if_pos (by omega), if_neg hthirteen, Nat.add_sub_cancel_left]

/-- The first octet of a character of four, and the bounds of the second. -/
theorem start_four {bits : Nat} (h : bits < 5) :
    start (0xf0 + bits) =
      ([], .pending 3 bits (if bits = 0 then 0x90 else 0x80) (if bits = 4 then 0x8f else 0xbf)) := by
  unfold start
  rw [if_neg (by omega), if_neg (by omega), if_neg (by omega), if_neg (by omega),
    if_neg (by omega)]
  by_cases hzero : bits = 0
  · subst hzero
    rfl
  · rw [if_neg (by omega), if_neg hzero]
    by_cases hfour : bits = 4
    · subst hfour
      rfl
    · rw [if_neg (by omega), if_pos (by omega), if_neg hfour, Nat.add_sub_cancel_left]

/-- An octet that completes a character. -/
theorem decodeFrom_last {bits low high b : Nat} (hlow : low ≤ b) (hhigh : b ≤ high)
    (rest : List Nat) :
    decodeFrom (.pending 1 bits low high) (b :: rest) =
      Char.ofNat (bits * 64 + (b - 0x80)) :: decodeFrom .idle rest := by
  rw [decodeFrom_cons, step_fits hlow hhigh]
  rfl

/-- An octet that does not complete it yet. -/
theorem decodeFrom_more {need bits low high b : Nat} (hlow : low ≤ b) (hhigh : b ≤ high)
    (rest : List Nat) :
    decodeFrom (.pending (need + 2) bits low high) (b :: rest) =
      decodeFrom (.pending (need + 1) (bits * 64 + (b - 0x80)) 0x80 0xbf) rest := by
  rw [decodeFrom_cons, step_fits hlow hhigh, if_neg (by omega)]
  rfl

/-- The first octet of a longer character. -/
theorem decodeFrom_start {b : Nat} {state : State} (h : start b = ([], state))
    (rest : List Nat) : decodeFrom .idle (b :: rest) = decodeFrom state rest := by
  rw [decodeFrom_cons, step, h]
  rfl

/-- The octets of a character are read as the character. -/
theorem decodeFrom_encodeChar (c : Char) (rest : List Nat) :
    decodeFrom .idle (encodeChar c ++ rest) = c :: decodeFrom .idle rest := by
  have hvalid := char_bounds c
  have hread : ∀ {n : Nat}, n = c.toNat → Char.ofNat n = c := fun h => by
    rw [h, Char.ofNat_toNat]
  unfold encodeChar
  simp only
  split
  · -- one octet
    rw [List.singleton_append, decodeFrom_cons, step, start, if_pos ‹_›, hread rfl]
    rfl
  · split
    · -- two octets
      rw [List.cons_append, List.singleton_append,
        decodeFrom_start (start_two (by omega) (by omega)),
        decodeFrom_last (by omega) (by omega), hread (by omega)]
    · split
      · -- three octets: the bounds of the second keep out short forms and surrogates
        rw [List.cons_append, List.cons_append, List.singleton_append,
          decodeFrom_start (start_three (by omega)),
          decodeFrom_more (by split <;> omega) (by split <;> omega),
          decodeFrom_last (by omega) (by omega), hread (by omega)]
      · -- four octets
        rw [List.cons_append, List.cons_append, List.cons_append, List.singleton_append,
          decodeFrom_start (start_four (by omega)),
          decodeFrom_more (by split <;> omega) (by split <;> omega),
          decodeFrom_more (by omega) (by omega),
          decodeFrom_last (by omega) (by omega), hread (by omega)]

/-- A written text is read back. -/
theorem decode_encode (text : List Char) : decode (encode text) = text := by
  induction text with
  | nil => rfl
  | cons c text ih =>
      show decodeFrom .idle (encodeChar c ++ encode text) = c :: text
      rw [decodeFrom_encodeChar]
      exact congrArg (c :: ·) ih

/-! ## Replacement does not shorten

The characters a state can still complete lie between two bounds.  They are written with at
least as many octets as were read for them, and so is the replacement character. -/

/-- The least character that is written with some number of octets. -/
def least : Nat → Nat
  | 0 | 1 => 0
  | 2 => 0x80
  | 3 => 0x800
  | _ => 0x10000

theorem least_le_length {n : Nat} {c : Char} (hn : n ≤ 4) (h : least n ≤ c.toNat) :
    n ≤ (encodeChar c).length := by
  rw [encodeChar]
  match n with
  | 0 => simp
  | 1 => simp; split <;> (try split) <;> (try split) <;> simp
  | 2 => simp [least] at h ⊢; split <;> (try split) <;> (try split) <;> simp <;> omega
  | 3 => simp [least] at h ⊢; split <;> (try split) <;> (try split) <;> simp <;> omega
  | 4 => simp [least] at h ⊢; split <;> (try split) <;> (try split) <;> simp <;> omega

/-- A state in which some octets were read for a character. -/
def Holds (taken : Nat) : State → Prop
  | .idle => taken = 0
  | .pending need bits low high =>
      (1 ≤ taken ∧ taken + need ≤ 4 ∧ 1 ≤ need ∧ 0x80 ≤ low) ∧
        least (taken + need) ≤ (bits * 64 + (low - 0x80)) * 64 ^ (need - 1) ∧
        ((bits * 64 + (high - 0x80) + 1) * 64 ^ (need - 1) ≤ 0xd800 ∨
          0xe000 ≤ (bits * 64 + (low - 0x80)) * 64 ^ (need - 1) ∧
            (bits * 64 + (high - 0x80) + 1) * 64 ^ (need - 1) ≤ 0x110000)

@[simp] theorem encode_nil : encode [] = [] := rfl

@[simp] theorem encode_cons (c : Char) (text : List Char) :
    encode (c :: text) = encodeChar c ++ encode text := rfl

theorem encode_append (left right : List Char) :
    encode (left ++ right) = encode left ++ encode right := by
  simp [encode]

theorem decodeStrict_encode (text : List Char) : decodeStrict (encode text) = some text := by
  rw [decodeStrict, decode_encode, if_pos rfl]

theorem encodeChar_lt {c : Char} : ∀ b ∈ encodeChar c, b < 256 := by
  have hvalid := char_bounds c
  intro b hb
  rw [encodeChar] at hb
  split at hb
  · simp only [List.mem_singleton] at hb
    omega
  · split at hb
    · simp only [List.mem_cons, List.not_mem_nil, or_false] at hb
      omega
    · split at hb <;> simp only [List.mem_cons, List.not_mem_nil, or_false] at hb <;> omega

/-- What is written are octets. -/
theorem encode_lt (text : List Char) : ∀ b ∈ encode text, b < 256 := by
  intro b hb
  obtain ⟨c, -, hc⟩ := List.mem_flatMap.mp hb
  exact encodeChar_lt b hc

theorem encodeChar_pos (c : Char) : 1 ≤ (encodeChar c).length :=
  least_le_length (by omega) (Nat.zero_le _)

/-- What an octet writes and the octets that are still held are as many as were read. -/
def Keeps (taken : Nat) (read : List Char × State) : Prop :=
  ∃ held, Holds held read.2 ∧ taken ≤ (encode read.1).length + held

/-- The first octet of a character is held, or writes a character. -/
theorem keeps_start (b : Nat) : Keeps 1 (start b) := by
  have hwritten : ∀ c, Keeps 1 ([c], .idle) := fun c =>
    ⟨0, rfl, by simpa using encodeChar_pos c⟩
  have hheld : ∀ {state}, Holds 1 state → Keeps 1 ([], state) := fun h => ⟨1, h, by simp⟩
  unfold start
  split
  · exact hwritten _
  · split
    · apply hheld
      simp [Holds, least]
      omega
    · split
      · exact hheld (by simp [Holds, least])
      · split
        · exact hheld (by simp [Holds, least])
        · split
          · apply hheld
            simp [Holds, least]
            omega
          · split
            · exact hheld (by simp [Holds, least])
            · split
              · exact hheld (by simp [Holds, least])
              · split
                · apply hheld
                  simp [Holds, least]
                  omega
                · exact hwritten _

/-- An octet that fits keeps the character between its bounds. -/
theorem keeps_fits {taken need bits low high b : Nat}
    (h : Holds taken (.pending need bits low high)) (hlow : low ≤ b) (hhigh : b ≤ high) :
    Keeps (taken + 1) (step (.pending need bits low high) b) := by
  obtain ⟨⟨htaken, hfour, hneed, hbound⟩, hleast, hchar⟩ := h
  have hleft : bits * 64 + (low - 0x80) ≤ bits * 64 + (b - 0x80) := by omega
  have hright : bits * 64 + (b - 0x80) + 1 ≤ bits * 64 + (high - 0x80) + 1 := by omega
  rw [step_fits hlow hhigh]
  generalize bits * 64 + (b - 0x80) = value at hleft hright ⊢
  generalize bits * 64 + (low - 0x80) = first at hleft hleast hchar
  generalize bits * 64 + (high - 0x80) + 1 = last at hright hchar
  split
  · next hone =>
      subst hone
      rw [Nat.sub_self, Nat.pow_zero, Nat.mul_one, Nat.mul_one] at *
      have hvalid : value.isValidChar := by
        unfold Nat.isValidChar
        omega
      have hvalue : (Char.ofNat value).toNat = value := by
        rw [Char.ofNat, dif_pos hvalid]
        rfl
      refine ⟨0, rfl, ?_⟩
      have hlong : taken + 1 ≤ (encodeChar (Char.ofNat value)).length :=
        least_le_length hfour (by omega)
      simpa using hlong
  · next hmore =>
      obtain ⟨more, rfl⟩ : ∃ more, need = more + 2 := ⟨need - 2, by omega⟩
      -- the bounds of the rest lie between those of the whole
      have hfrom := Nat.mul_le_mul_right (64 ^ (more + 1)) hleft
      have hto := Nat.mul_le_mul_right (64 ^ (more + 1)) hright
      have hlow : (value * 64 + (0x80 - 0x80)) * 64 ^ more = value * 64 ^ (more + 1) := by
        rw [Nat.sub_self, Nat.add_zero, Nat.pow_succ, Nat.mul_assoc, Nat.mul_comm 64]
      have hhigh : (value * 64 + (0xbf - 0x80) + 1) * 64 ^ more = (value + 1) * 64 ^ (more + 1) := by
        have hnext : value * 64 + (0xbf - 0x80) + 1 = (value + 1) * 64 := by omega
        rw [hnext, Nat.pow_succ, Nat.mul_assoc, Nat.mul_comm 64]
      have hsize : taken + 1 + (more + 2 - 1) = taken + (more + 2) := by omega
      refine ⟨taken + 1, ⟨⟨by omega, by omega, by omega, by omega⟩, ?_⟩, by simp⟩
      rw [hsize, show more + 2 - 1 - 1 = more from rfl, hlow, hhigh]
      exact ⟨Nat.le_trans hleast hfrom, hchar.imp (Nat.le_trans hto) fun hrange =>
        ⟨Nat.le_trans hrange.1 hfrom, Nat.le_trans hto hrange.2⟩⟩

/-- One octet. -/
theorem keeps_step {taken : Nat} {state : State} (h : Holds taken state) (b : Nat) :
    Keeps (taken + 1) (step state b) := by
  cases state with
  | idle =>
      rw [Holds] at h
      subst h
      exact keeps_start b
  | pending need bits low high =>
      by_cases hfit : low ≤ b ∧ b ≤ high
      · exact keeps_fits h hfit.1 hfit.2
      · obtain ⟨held, hheld, hle⟩ := keeps_start b
        obtain ⟨⟨-, hfour, hneed, -⟩, -⟩ := h
        have hthree : (encodeChar replacement).length = 3 := by decide
        rw [step, if_neg hfit]
        refine ⟨held, hheld, ?_⟩
        simp [hthree]
        omega

/-- A text is written with at least as many octets as it was read from. -/
theorem length_le_decodeFrom {octets : List Nat} {taken : Nat} {state : State}
    (h : Holds taken state) :
    taken + octets.length ≤ (encode (decodeFrom state octets)).length := by
  induction octets generalizing taken state with
  | nil =>
      cases state with
      | idle => simp [Holds] at h; simp [h]
      | pending need bits low high =>
          have hthree : (encodeChar replacement).length = 3 := by decide
          have := h.1
          simp [decodeFrom, hthree]
          omega
  | cons b octets ih =>
      obtain ⟨held, hheld, hle⟩ := keeps_step h b
      have hrest := ih hheld
      rw [decodeFrom_cons, encode_append]
      simp
      omega

theorem length_le_encode_decode (octets : List Nat) :
    octets.length ≤ (encode (decode octets)).length := by
  have hle : 0 + octets.length ≤ (encode (decodeFrom .idle octets)).length := length_le_decodeFrom rfl
  rwa [Nat.zero_add] at hle

/-! ## Reading in pieces -/

/-- What the machine has read of some octets, and where it stands after them. -/
def runFrom : State → List Nat → List Char × State
  | state, [] => ([], state)
  | state, b :: octets =>
      ((step state b).1 ++ (runFrom (step state b).2 octets).1, (runFrom (step state b).2 octets).2)

/-- The rest is read from where the machine stands. -/
theorem decodeFrom_append (state : State) (front back : List Nat) :
    decodeFrom state (front ++ back) =
      (runFrom state front).1 ++ decodeFrom (runFrom state front).2 back := by
  induction front generalizing state with
  | nil => rfl
  | cons b front ih => rw [List.cons_append, decodeFrom_cons, ih, runFrom, List.append_assoc]

/-- An octet continues the character that the machine is in. -/
def State.TakenBy : State → List Nat → Prop
  | .pending _ _ low high, b :: _ => low ≤ b ∧ b ≤ high
  | _, _ => False

instance (state : State) (octets : List Nat) : Decidable (state.TakenBy octets) :=
  match state, octets with
  | .pending _ _ low high, b :: _ => inferInstanceAs (Decidable (low ≤ b ∧ b ≤ high))
  | .pending .., [] => inferInstanceAs (Decidable False)
  | .idle, _ => inferInstanceAs (Decidable False)

/-- Reading starts afresh at octets that do not continue a character. -/
theorem decodeFrom_of_not_taken {state : State} {octets : List Nat}
    (h : ¬ state.TakenBy octets) :
    decodeFrom state octets = decodeFrom state [] ++ decodeFrom .idle octets := by
  cases state with
  | idle => rfl
  | pending need bits low high =>
      cases octets with
      | nil => rfl
      | cons b octets =>
          have hstep : step (.pending need bits low high) b
              = (replacement :: (start b).1, (start b).2) := if_neg h
          rw [decodeFrom_cons, decodeFrom_cons, hstep]
          rfl

/-- A cut between two texts of octets that goes through a character. -/
def Splits (front back : List Nat) : Prop :=
  (runFrom .idle front).2.TakenBy back

instance (front back : List Nat) : Decidable (Splits front back) :=
  inferInstanceAs (Decidable (State.TakenBy _ _))

/-- Two texts cut between characters are read one by one. -/
theorem decode_append {front back : List Nat} (h : ¬ Splits front back) :
    decode (front ++ back) = decode front ++ decode back := by
  have hfront : decode front =
      (runFrom .idle front).1 ++ decodeFrom (runFrom .idle front).2 [] := by
    rw [decode, ← decodeFrom_append, List.append_nil]
  rw [decode, decodeFrom_append, decodeFrom_of_not_taken h, hfront, List.append_assoc, decode]

/-- No piece begins inside a character of what stands before it. -/
def Whole (pieces : List (List Nat)) : Prop :=
  ∀ front piece back, pieces = front ++ piece :: back → ¬ Splits front.flatten piece

/-- Pieces cut between characters are read one by one. -/
theorem decode_flatten {pieces : List (List Nat)} (h : Whole pieces) :
    decode pieces.flatten = pieces.flatMap decode := by
  induction pieces using List.reverseRecOn with
  | nil => rfl
  | append_singleton front piece ih =>
      have hfront : Whole front := by
        intro front' piece' back hsplit
        exact h front' piece' (back ++ [piece]) (by simp [hsplit])
      have hlast := h front piece [] rfl
      rw [List.flatten_append, List.flatMap_append, ← ih hfront]
      simpa using decode_append hlast

/-- Octets are read as some text. -/
theorem decode_eq_nil {octets : List Nat} : decode octets = [] ↔ octets = [] := by
  constructor
  · intro h
    have hlength := length_le_encode_decode octets
    rw [h] at hlength
    exact List.eq_nil_of_length_eq_zero (Nat.le_zero.mp hlength)
  · rintro rfl
    rfl

/-! ## Between characters of one octet

No octet below 0x80 continues a character, so characters of one octet bound what stands
between them. -/

/-- A state whose next octet, if it owes one, is not below 0x80. -/
def State.High : State → Prop
  | .idle => True
  | .pending _ _ low _ => 0x80 ≤ low

theorem high_start (b : Nat) : (start b).2.High := by
  unfold start
  repeat' split
  all_goals simp [State.High]

theorem high_step {state : State} (h : state.High) (b : Nat) : (step state b).2.High := by
  cases state with
  | idle => exact high_start b
  | pending need bits low high =>
      rw [step]
      split
      · split
        · trivial
        · simp [State.High]
      · exact high_start b

theorem high_runFrom {state : State} (h : state.High) (octets : List Nat) :
    (runFrom state octets).2.High := by
  induction octets generalizing state with
  | nil => exact h
  | cons b octets ih => exact ih (high_step h b)

/-- No cut in front of an octet below 0x80 goes through a character. -/
theorem not_splits {b : Nat} (hb : b < 0x80) (front back : List Nat) :
    ¬ Splits front (b :: back) := by
  intro h
  have hidle : State.High .idle := trivial
  have hhigh := high_runFrom hidle front
  unfold Splits at h
  cases hstate : (runFrom .idle front).2 with
  | idle =>
      rw [hstate] at h
      exact h
  | pending need bits low high =>
      rw [hstate] at h hhigh
      have hlow : low ≤ b := h.1
      have hle : 0x80 ≤ low := hhigh
      omega

/-- A text in front is read as it was written. -/
theorem decode_encode_append (text : List Char) (octets : List Nat) :
    decode (encode text ++ octets) = text ++ decode octets := by
  induction text with
  | nil => rfl
  | cons c text ih =>
      rw [encode_cons, List.append_assoc, decode, decodeFrom_encodeChar, List.cons_append, ← ih]
      rfl

/-- Octets between two texts, of which the second begins with a character of one octet,
are a text exactly if all three are. -/
theorem decodeStrict_between (before : List Char) (octets : List Nat) {c : Char}
    (hc : c.toNat < 0x80) (after : List Char) :
    decodeStrict (encode before ++ (octets ++ encode (c :: after))) =
      (decodeStrict octets).map fun text => before ++ (text ++ c :: after) := by
  have hone : encodeChar c = [c.toNat] := by simp [encodeChar, hc]
  have hcut : decode (octets ++ encode (c :: after)) = decode octets ++ c :: after := by
    rw [decode_append, decode_encode]
    rw [encode_cons, hone]
    exact not_splits hc _ _
  have hsame : encode (before ++ (decode octets ++ c :: after)) =
      encode before ++ (octets ++ encode (c :: after)) ↔ encode (decode octets) = octets := by
    rw [encode_append, encode_append, List.append_cancel_left_eq, List.append_cancel_right_eq]
  rw [decodeStrict, decode_encode_append, hcut, decodeStrict]
  by_cases h : encode (decode octets) = octets
  · rw [if_pos (hsame.mpr h), if_pos h]
    rfl
  · rw [if_neg fun hall => h (hsame.mp hall), if_neg h]
    rfl

/-- Octets are a text exactly if they are written by one. -/
theorem decodeStrict_isSome {octets : List Nat} :
    (decodeStrict octets).isSome ↔ ∃ text, octets = encode text := by
  constructor
  · intro h
    rw [decodeStrict] at h
    split at h
    · exact ⟨_, (‹encode (decode octets) = octets›).symm⟩
    · cases h
  · rintro ⟨text, rfl⟩
    rw [decodeStrict_encode]
    rfl

end Utf8

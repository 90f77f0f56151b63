import Mathlib.Data.List.Basic

/-!
# Base64

Three octets are four digits of six bits.  What is left over at the end is padded with `=`.

`decode_encode` says that octets are read back, and `encode_written` that only letters, digits
and `+`, `/` and `=` are written.
-/

namespace Base64

/-- The character of a digit. -/
def digitChar (n : Nat) : Char :=
  if n < 26 then Char.ofNat ('A'.toNat + n)
  else if n < 52 then Char.ofNat ('a'.toNat + (n - 26))
  else if n < 62 then Char.ofNat ('0'.toNat + (n - 52))
  else if n = 62 then '+' else '/'

/-- The digit of a character. -/
def digitOf (c : Char) : Option Nat :=
  if 'A' ≤ c ∧ c ≤ 'Z' then some (c.toNat - 'A'.toNat)
  else if 'a' ≤ c ∧ c ≤ 'z' then some (c.toNat - 'a'.toNat + 26)
  else if '0' ≤ c ∧ c ≤ '9' then some (c.toNat - '0'.toNat + 52)
  else if c = '+' then some 62
  else if c = '/' then some 63
  else none

/-- A character that is written: that of a digit, or the padding. -/
def IsWritten (c : Char) : Prop := c = '=' ∨ ∃ n < 64, c = digitChar n

theorem digitOf_digitChar {n : Nat} (h : n < 64) : digitOf (digitChar n) = some n := by
  have hall : ∀ n < 64, digitOf (digitChar n) = some n := by decide
  exact hall n h

theorem digitChar_ne_padding {n : Nat} (h : n < 64) : digitChar n ≠ '=' := by
  have hall : ∀ n < 64, digitChar n ≠ '=' := by decide
  exact hall n h

/-- The text of some octets. -/
def encode : List Nat → List Char
  | [] => []
  | [a] => [digitChar (a / 4), digitChar (a % 4 * 16), '=', '=']
  | [a, b] => [digitChar (a / 4), digitChar (a % 4 * 16 + b / 16), digitChar (b % 16 * 4), '=']
  | a :: b :: c :: octets =>
      digitChar (a / 4) :: digitChar (a % 4 * 16 + b / 16) :: digitChar (b % 16 * 4 + c / 64) ::
        digitChar (c % 64) :: encode octets

/-- The octets of a text. -/
def decode : List Char → Option (List Nat)
  | [] => some []
  | c₁ :: c₂ :: c₃ :: c₄ :: rest => do
      let w ← digitOf c₁
      let x ← digitOf c₂
      if c₃ = '=' ∧ c₄ = '=' ∧ rest = [] then return [w * 4 + x / 16]
      else
        let y ← digitOf c₃
        if c₄ = '=' ∧ rest = [] then return [w * 4 + x / 16, x % 16 * 16 + y / 4]
        else
          let z ← digitOf c₄
          let octets ← decode rest
          return (w * 4 + x / 16) :: (x % 16 * 16 + y / 4) :: (y % 4 * 64 + z) :: octets
  | _ => none

/-- Octets are read back. -/
theorem decode_encode {octets : List Nat} (h : ∀ b ∈ octets, b < 256) :
    decode (encode octets) = some octets := by
  induction octets using encode.induct with
  | case1 => rfl
  | case2 a =>
      have ha := h a (by simp)
      simp only [encode, decode, digitOf_digitChar (show a / 4 < 64 by omega),
        digitOf_digitChar (show a % 4 * 16 < 64 by omega)]
      simp
      omega
  | case3 a b =>
      have ha := h a (by simp)
      have hb := h b (by simp)
      have hy : b % 16 * 4 < 64 := by omega
      simp only [encode, decode, digitOf_digitChar (show a / 4 < 64 by omega),
        digitOf_digitChar (show a % 4 * 16 + b / 16 < 64 by omega), digitOf_digitChar hy]
      simp [digitChar_ne_padding hy]
      omega
  | case4 a b c octets ih =>
      have ha := h a (by simp)
      have hb := h b (by simp)
      have hc := h c (by simp)
      have hy : b % 16 * 4 + c / 64 < 64 := by omega
      have hz : c % 64 < 64 := by omega
      have hrest := ih fun b hb => h b (by simp [hb])
      simp only [encode, decode, digitOf_digitChar (show a / 4 < 64 by omega),
        digitOf_digitChar (show a % 4 * 16 + b / 16 < 64 by omega), digitOf_digitChar hy,
        digitOf_digitChar hz, hrest]
      simp [digitChar_ne_padding hy, digitChar_ne_padding hz]
      omega

/-- What is written. -/
theorem encode_written {octets : List Nat} (h : ∀ b ∈ octets, b < 256) :
    ∀ c ∈ encode octets, IsWritten c := by
  have hdigit : ∀ {n}, n < 64 → IsWritten (digitChar n) := fun hn => .inr ⟨_, hn, rfl⟩
  induction octets using encode.induct with
  | case1 => simp [encode]
  | case2 a =>
      have ha := h a (by simp)
      simp only [encode, List.forall_mem_cons]
      exact ⟨hdigit (by omega), hdigit (by omega), .inl rfl, .inl rfl, by simp⟩
  | case3 a b =>
      have ha := h a (by simp)
      have hb := h b (by simp)
      simp only [encode, List.forall_mem_cons]
      exact ⟨hdigit (by omega), hdigit (by omega), hdigit (by omega), .inl rfl, by simp⟩
  | case4 a b c octets ih =>
      have ha := h a (by simp)
      have hb := h b (by simp)
      have hc := h c (by simp)
      simp only [encode, List.forall_mem_cons]
      exact ⟨hdigit (by omega), hdigit (by omega), hdigit (by omega), hdigit (by omega),
        ih fun b hb => h b (by simp [hb])⟩

end Base64

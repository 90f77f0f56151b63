import Mathlib.Data.List.DropRight
import Mathlib.Tactic.Ring

/-!
# Integers in octets

`write` lays an unsigned integer out in so many octets, in either byte order, and
`read` reads octets as an integer.  `read_write` says that what fits is read back.
`padded` fills a text of octets up to a multiple of four, and `pad` is how much
that takes.
-/

namespace ByteOrder

/-- Which octet of an integer comes first. -/
inductive Order where
  /-- The least significant one. -/
  | little
  /-- The most significant one. -/
  | big
deriving DecidableEq, Repr

/-- The integer of some octets, the least significant first. -/
def ofLittle : List UInt8 → Nat
  | [] => 0
  | b :: octets => b.toNat + 256 * ofLittle octets

/-- An integer in so many octets, the least significant first. -/
def toLittle : Nat → Nat → List UInt8
  | 0, _ => []
  | width + 1, n => UInt8.ofNat n :: toLittle width (n / 256)

/-- The integer of some octets. -/
def read : Order → List UInt8 → Nat
  | .little, octets => ofLittle octets
  | .big, octets => ofLittle octets.reverse

/-- An integer in so many octets. -/
def write (order : Order) (width n : Nat) : List UInt8 :=
  match order with
  | .little => toLittle width n
  | .big => (toLittle width n).reverse

@[simp] theorem length_toLittle (width n : Nat) : (toLittle width n).length = width := by
  induction width generalizing n with
  | zero => rfl
  | succ width ih => simp [toLittle, ih]

@[simp] theorem length_write (order : Order) (width n : Nat) :
    (write order width n).length = width := by
  cases order <;> simp [write]

theorem ofLittle_toLittle {width n : Nat} (h : n < 256 ^ width) :
    ofLittle (toLittle width n) = n := by
  induction width generalizing n with
  | zero =>
      rw [Nat.pow_zero] at h
      have hzero : n = 0 := by omega
      rw [hzero]
      rfl
  | succ width ih =>
      have hrest : n / 256 < 256 ^ width := by
        rw [Nat.pow_succ] at h
        omega
      rw [toLittle, ofLittle, ih hrest, UInt8.toNat_ofNat']
      omega

/-- What fits is read back. -/
theorem read_write (order : Order) {width n : Nat} (h : n < 256 ^ width) :
    read order (write order width n) = n := by
  cases order with
  | little => exact ofLittle_toLittle h
  | big => rw [write, read, List.reverse_reverse, ofLittle_toLittle h]

/-! ## Alignment -/

/-- How far it is to the next multiple of four. -/
def pad (n : Nat) : Nat := (4 - n % 4) % 4

theorem pad_add {m : Nat} (h : m % 4 = 0) (n : Nat) : pad (m + n) = pad n := by
  simp only [pad]
  omega

theorem add_pad_mod (n : Nat) : (n + pad n) % 4 = 0 := by
  simp only [pad]
  omega

/-- Octets filled up with zeros. -/
def padded (octets : List UInt8) : List UInt8 :=
  octets ++ List.replicate (pad octets.length) 0

@[simp] theorem length_padded (octets : List UInt8) :
    (padded octets).length = octets.length + pad octets.length := by
  simp [padded]

/-! ## Parts of a text -/

variable {α : Type}

/-- A part of a text that was written between two others. -/
theorem extract_of_eq (before part : List α) {text after : List α} {first last : Nat}
    (h : text = before ++ (part ++ after)) (hfirst : first = before.length)
    (hlast : last = before.length + part.length) : text.extract first last = part := by
  subst h hfirst hlast
  simp [List.extract]

end ByteOrder

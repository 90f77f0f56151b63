import Mathlib.Data.List.Forall2

/-!
# Cells that a power loss sets back

A cell holds a value or none, and remembers what it held since it was last settled.  A power loss
brings any of these back.

`Cell.Rel` relates two cells state by state.  Whatever the related cell goes through, the other
can go through it too (`Rel.set`, `Rel.lost`).
-/

namespace Durable

/-- What is held now, and what was held since the last time it was settled. -/
structure Cell (α : Type) where
  now : Option α
  past : List (Option α)
deriving DecidableEq

namespace Cell

variable {α β : Type}

/-- Nothing, for good. -/
def empty : Cell α := ⟨none, []⟩

/-- All that a power loss may bring back. -/
def states (cell : Cell α) : List (Option α) := cell.now :: cell.past

/-- Another value. -/
def put (cell : Cell α) (value : Option α) : Cell α := ⟨value, cell.states⟩

/-- What is there stays. -/
def settle (cell : Cell α) : Cell α := ⟨cell.now, []⟩

/-- Another value, which may be there to stay. -/
def set (cell : Cell α) (value : Option α) (settled : Bool) : Cell α :=
  if settled then (cell.put value).settle else cell.put value

/-- The power is lost. -/
def Lost (cell cell' : Cell α) : Prop := ∃ state ∈ cell.states, cell' = ⟨state, []⟩

@[simp] theorem set_now (cell : Cell α) (value : Option α) (settled : Bool) :
    (cell.set value settled).now = value := by
  cases settled <;> rfl

/-- A value that was settled is not lost. -/
theorem Lost.settled {cell cell' : Cell α} (h : cell.Lost cell') (hpast : cell.past = []) :
    cell' = cell := by
  obtain ⟨state, hstate, rfl⟩ := h
  rw [states, hpast, List.mem_singleton] at hstate
  rw [hstate, ← hpast]

/-- Related state by state. -/
structure Rel (R : Option α → Option β → Prop) (cell : Cell α) (cell' : Cell β) : Prop where
  now : R cell.now cell'.now
  past : List.Forall₂ R cell.past cell'.past

namespace Rel

variable {R : Option α → Option β → Prop} {cell : Cell α} {cell' : Cell β}

theorem states (h : Rel R cell cell') : List.Forall₂ R cell.states cell'.states := .cons h.now h.past

theorem set (h : Rel R cell cell') {value : Option α} {value' : Option β} (hvalue : R value value')
    (settled : Bool) : Rel R (cell.set value settled) (cell'.set value' settled) := by
  cases settled with
  | false => exact ⟨hvalue, h.states⟩
  | true => exact ⟨hvalue, .nil⟩

/-- What a power loss brings back of the one is the image of what it may bring back of the
other. -/
theorem lost (h : Rel R cell cell') {state : Option α} (hstate : state ∈ cell.states) :
    ∃ state', R state state' ∧ cell'.Lost ⟨state', []⟩ := by
  obtain ⟨i, hi⟩ := List.getElem?_of_mem hstate
  have hlength := h.states.length_eq
  have hlt : i < cell.states.length := (List.getElem?_eq_some_iff.mp hi).1
  have hget := List.Forall₂.get h.states hlt (hlength ▸ hlt)
  refine ⟨cell'.states.get ⟨i, hlength ▸ hlt⟩, ?_, _, List.get_mem _ _, rfl⟩
  rw [List.getElem?_eq_some_iff] at hi
  exact hi.2 ▸ hget

end Rel

end Cell

end Durable

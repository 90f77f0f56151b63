import Kdive.Lib.Checked
import Kdive.Seams.TransportState

/-!
# The stop-capable guard

One stop-capable session may hold a target.  `acquire` hands out a token whose
fence is larger than every earlier one, and `release` frees the target for the
holder's own token only.  A token of an earlier holder, or one of another target,
releases nothing.  `revoke` frees the target whoever holds it.

The source also draws a random secret for each token.  Draws never repeat, and
neither does the fence, so the fence stands for the secret as well.
-/

namespace Kdive

open Checked

/-- The token of a holder. -/
structure GuardToken where
  /-- The target it holds. -/
  targetKey : TargetKey
  /-- Its place among all tokens handed out. -/
  fence : Nat
  /-- The drawn secret. -/
  secret : Nat
deriving DecidableEq, Repr

/-- The target already has a holder. -/
structure GuardConflict where
  /-- The target. -/
  targetKey : TargetKey
deriving DecidableEq, Repr

/-- The in-process guard. -/
structure StopCapableGuard where
  /-- The holder of each target. -/
  holders : TargetKey → Option GuardToken
  /-- The fence of the last token handed out. -/
  fence : Nat

namespace StopCapableGuard

/-- Nobody holds anything. -/
def free (fence : Nat) : StopCapableGuard := ⟨fun _ => none, fence⟩

/-- Take a target that has no holder. -/
def acquire (guard : StopCapableGuard) (targetKey : TargetKey) :
    Except GuardConflict (GuardToken × StopCapableGuard) := do
  refuse ((guard.holders targetKey).isSome = true) ⟨targetKey⟩
  let token : GuardToken := ⟨targetKey, guard.fence + 1, guard.fence + 1⟩
  return (token, ⟨Function.update guard.holders targetKey (some token), guard.fence + 1⟩)

/-- Free a target for its holder's token. -/
def release (guard : StopCapableGuard) (targetKey : TargetKey) (token : GuardToken) :
    Bool × StopCapableGuard :=
  if token.targetKey = targetKey ∧ guard.holders targetKey = some token then
    (true, { guard with holders := Function.update guard.holders targetKey none })
  else (false, guard)

/-- Free a target without a token. -/
def revoke (guard : StopCapableGuard) (targetKey : TargetKey) : StopCapableGuard :=
  { guard with holders := Function.update guard.holders targetKey none }

@[simp] theorem release_holders_ne (guard : StopCapableGuard) (k k' : TargetKey)
    (token : GuardToken) (hne : k' ≠ k) :
    (guard.release k token).2.holders k' = guard.holders k' := by
  unfold release
  split
  · simp [hne]
  · rfl

/-- A token that holds nothing releases nothing. -/
theorem release_of_ne {guard : StopCapableGuard} {k : TargetKey} {token : GuardToken}
    (hne : guard.holders k ≠ some token) : guard.release k token = (false, guard) := by
  simp [release, hne]

end StopCapableGuard

end Kdive

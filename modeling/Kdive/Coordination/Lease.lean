import Kdive.Lib.Checked
import Kdive.Seams.TransportState

/-!
# Console leases

A target has one console lease.  `acquire` succeeds on a free lease only, raises
its generation and draws a token, and `release` frees the lease for that token.
`revoke` frees the lease whoever holds it and raises its generation.
`drawn` counts the tokens drawn over all targets, so a token is never drawn
twice, as with the source's random ones.
-/

namespace Kdive

open Checked

/-- Who holds a console lease. -/
inductive LeaseOwner where
  | free
  | provisioner
  | transport
deriving DecidableEq, Repr

/-- What `acquire` may raise. -/
inductive LeaseError where
  /-- A lease cannot be acquired for nobody. -/
  | ownerFree
  /-- The lease is held. -/
  | conflict (target : TargetKey) (owner : LeaseOwner)
deriving DecidableEq, Repr

/-- The lease of one target. -/
structure ConsoleLease where
  /-- Its holder. -/
  owner : LeaseOwner := .free
  /-- The holder's token. -/
  token : Option Nat := none
  /-- How often it was acquired or revoked. -/
  generation : Nat := 0
deriving DecidableEq, Repr

/-- The leases of all targets. -/
structure ConsoleLeaseManager where
  /-- The lease of each target. -/
  leases : TargetKey → ConsoleLease
  /-- How many tokens were drawn. -/
  drawn : Nat

namespace ConsoleLeaseManager

/-- Every lease is free. -/
def free (drawn : Nat) : ConsoleLeaseManager := ⟨fun _ => {}, drawn⟩

/-- Take a free lease. -/
def acquire (m : ConsoleLeaseManager) (target : TargetKey) (owner : LeaseOwner) :
    Except LeaseError (Nat × ConsoleLeaseManager) := do
  refuse (owner = .free) .ownerFree
  refuse ((m.leases target).owner ≠ .free) (.conflict target (m.leases target).owner)
  let lease : ConsoleLease :=
    { owner := owner, token := some m.drawn, generation := (m.leases target).generation + 1 }
  return (m.drawn, ⟨Function.update m.leases target lease, m.drawn + 1⟩)

/-- Free a lease for its holder's token. -/
def release (m : ConsoleLeaseManager) (target : TargetKey) (token : Nat) :
    Bool × ConsoleLeaseManager :=
  if (m.leases target).token = some token then
    (true, { m with
      leases := Function.update m.leases target
        { m.leases target with owner := .free, token := none } })
  else (false, m)

/-- Free a lease without a token. -/
def revoke (m : ConsoleLeaseManager) (target : TargetKey) : ConsoleLeaseManager :=
  { m with
    leases := Function.update m.leases target
      { owner := .free, token := none, generation := (m.leases target).generation + 1 } }

end ConsoleLeaseManager

end Kdive

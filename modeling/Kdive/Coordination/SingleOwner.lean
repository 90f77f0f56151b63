import Kdive.Coordination.Lease
import Kdive.Lib.Ownership
import Kdive.Seams.Guard

/-!
# The guard and the leases have single owners

Both the stop-capable guard and the console leases refine the table of
`Ownership`.  The guard counts fences over all targets, a lease its own
generation, and either serves as the stamp of a grant.
-/

namespace Kdive

open Checked Ownership

namespace StopCapableGuard

/-- The guard as an authority.  A grant is stamped with its fence. -/
def authority : Authority StopCapableGuard TargetKey Unit GuardToken (Option GuardToken) where
  step
    | .acquire k _, guard =>
        match guard.acquire k with
        | .ok (token, guard') => (.granted token token.fence, guard')
        | .error _ => (.refused, guard)
    | .release k token, guard =>
        (.released (guard.release k token).1, (guard.release k token).2)
    | .revoke k, guard => (.revoked, guard.revoke k)
  view := fun guard k => guard.holders k
  holder := id

/-- The holder of a target carries a token for it. -/
def Keyed (guard : StopCapableGuard) : Prop :=
  ∀ k token, guard.holders k = some token → token.targetKey = k

/-- The table of the guard.  Tokens up to the last fence were drawn. -/
def table (guard : StopCapableGuard) : Table TargetKey GuardToken where
  holder := guard.holders
  drawn := fun token => token.fence ≤ guard.fence
  stamp := fun _ => guard.fence

/-- An acquisition is refused, or grants a free target. -/
theorem authority_acquire (guard : StopCapableGuard) (k : TargetKey) (owner : Unit) :
    authority.step (.acquire k owner) guard = (.refused, guard) ∨
      ∃ token : GuardToken, guard.holders k = none ∧ token.targetKey = k ∧
        token.fence = guard.fence + 1 ∧
        authority.step (.acquire k owner) guard =
          (.granted token token.fence,
            ⟨Function.update guard.holders k (some token), guard.fence + 1⟩) := by
  cases hk : guard.holders k with
  | none =>
      refine .inr ⟨⟨k, guard.fence + 1, guard.fence + 1⟩, rfl, rfl, rfl, ?_⟩
      have hacquire : guard.acquire k = .ok (⟨k, guard.fence + 1, guard.fence + 1⟩,
          ⟨Function.update guard.holders k (some ⟨k, guard.fence + 1, guard.fence + 1⟩),
            guard.fence + 1⟩) := by
        rw [acquire, refuse, if_neg (by simp [hk])]
        rfl
      simp only [authority, hacquire]
  | some token =>
      have hacquire : guard.acquire k = .error ⟨k⟩ := by
        rw [acquire, refuse, if_pos (by simp [hk])]
        rfl
      exact .inl (by simp only [authority, hacquire])

/-- A release frees the target for its holder's token, and does nothing otherwise. -/
theorem authority_release {guard : StopCapableGuard} (hkeyed : guard.Keyed) (k : TargetKey)
    (token : GuardToken) :
    (guard.holders k ≠ some token ∧
      authority.step (.release k token) guard = (.released false, guard)) ∨
      guard.holders k = some token ∧ authority.step (.release k token) guard =
        (.released true, { guard with holders := Function.update guard.holders k none }) := by
  by_cases hk : guard.holders k = some token
  · exact .inr ⟨hk, by simp only [authority, release, hkeyed k token hk, hk, and_self, if_true]⟩
  · exact .inl ⟨hk, by simp only [authority, release, hk, and_false, if_false]⟩

theorem authority_refines : authority.Refines Keyed table where
  keeps := by
    intro guard c hkeyed k' token' hk
    rw [Authority.next] at hk
    have freed : ∀ {k : TargetKey}, Function.update guard.holders k none k' = some token' →
        token'.targetKey = k' := by
      intro k hk
      by_cases heq : k' = k
      · simp [heq] at hk
      · exact hkeyed k' token' (by simpa [heq] using hk)
    cases c with
    | acquire k owner =>
        rcases guard.authority_acquire k owner with hstep | ⟨token, _, hkey, _, hstep⟩
        · rw [hstep] at hk
          exact hkeyed k' token' hk
        · rw [hstep] at hk
          by_cases heq : k' = k
          · subst heq
            simp only [Function.update_self, Option.some.injEq] at hk
            exact hk ▸ hkey
          · exact hkeyed k' token' (by simpa [heq] using hk)
    | release k token =>
        rcases authority_release hkeyed k token with ⟨_, hstep⟩ | ⟨_, hstep⟩
        · rw [hstep] at hk
          exact hkeyed k' token' hk
        · rw [hstep] at hk
          exact freed hk
    | revoke k => exact freed hk
  step := by
    intro guard c hkeyed
    rw [Authority.next]
    cases c with
    | acquire k owner =>
        rcases guard.authority_acquire k owner with hstep | ⟨token, hfree, _, hfence, hstep⟩
        · rw [hstep]
          exact .refused k owner
        · rw [hstep]
          have hnewer : guard.fence < token.fence := by omega
          refine .granted k owner token token.fence hfree (Nat.not_le_of_lt hnewer) hnewer rfl
            (fun x hx => ?_) (Nat.le_of_eq hfence) fun _ => Nat.le_succ _
          cases hx with
          | inl heq =>
              subst heq
              exact Nat.le_of_eq hfence
          | inr hdrawn => exact Nat.le_succ_of_le hdrawn
    | release k token =>
        rcases authority_release hkeyed k token with ⟨hforeign, hstep⟩ | ⟨hheld, hstep⟩
        · rw [hstep]
          exact .ignored k token hforeign
        · rw [hstep]
          exact .freed k token hheld rfl (fun _ hdrawn => hdrawn) fun _ => Nat.le_refl _
    | revoke k => exact .revoked k rfl (fun _ hdrawn => hdrawn) fun _ => Nat.le_refl _
  holder := fun _ => rfl
  frame := by
    intro guard c k' hne
    rw [Authority.next]
    cases c with
    | acquire k owner =>
        rcases guard.authority_acquire k owner with hstep | ⟨token, _, _, _, hstep⟩
        · rw [hstep]
        · rw [hstep]
          exact Function.update_of_ne hne _ _
    | release k token => exact guard.release_holders_ne k k' token hne
    | revoke k => exact Function.update_of_ne hne _ _
  ignored := by
    intro guard c hreply
    rw [Authority.next]
    cases c with
    | acquire k owner =>
        rcases guard.authority_acquire k owner with hstep | ⟨token, _, _, _, hstep⟩
        · rw [hstep]
        · rw [hstep] at hreply
          simp at hreply
    | release k token =>
        simp only [authority, release] at hreply ⊢
        split
        · rename_i hheld
          simp [hheld] at hreply
        · rfl
    | revoke k => simp [authority] at hreply

end StopCapableGuard

namespace ConsoleLeaseManager

/-- The leases as an authority.  A grant is stamped with its generation. -/
def authority : Authority ConsoleLeaseManager TargetKey LeaseOwner Nat ConsoleLease where
  step
    | .acquire k owner, m =>
        match m.acquire k owner with
        | .ok (token, m') => (.granted token (m'.leases k).generation, m')
        | .error _ => (.refused, m)
    | .release k token, m => (.released (m.release k token).1, (m.release k token).2)
    | .revoke k, m => (.revoked, m.revoke k)
  view := fun m k => m.leases k
  holder := ConsoleLease.token

/-- A lease has a token when it is held, and only then. -/
def Consistent (m : ConsoleLeaseManager) : Prop :=
  ∀ k, (m.leases k).owner = .free ↔ (m.leases k).token = none

/-- The table of the leases. -/
def table (m : ConsoleLeaseManager) : Table TargetKey Nat where
  holder := fun k => (m.leases k).token
  drawn := fun token => token < m.drawn
  stamp := fun k => (m.leases k).generation

/-- An acquisition is refused, or grants a free lease. -/
theorem authority_acquire (m : ConsoleLeaseManager) (k : TargetKey) (owner : LeaseOwner) :
    authority.step (.acquire k owner) m = (.refused, m) ∨
      owner ≠ .free ∧ (m.leases k).owner = .free ∧
        authority.step (.acquire k owner) m =
          (.granted m.drawn ((m.leases k).generation + 1),
            ⟨Function.update m.leases k ⟨owner, some m.drawn, (m.leases k).generation + 1⟩,
              m.drawn + 1⟩) := by
  by_cases howner : owner = .free
  · have hacquire : m.acquire k owner = .error .ownerFree := by
      rw [acquire, refuse, if_pos howner]
      rfl
    exact .inl (by simp only [authority, hacquire])
  · by_cases hfree : (m.leases k).owner = .free
    · have hacquire : m.acquire k owner = .ok (m.drawn,
          ⟨Function.update m.leases k ⟨owner, some m.drawn, (m.leases k).generation + 1⟩,
            m.drawn + 1⟩) := by
        rw [acquire, refuse, if_neg howner, refuse, if_neg (not_not_intro hfree)]
        rfl
      exact .inr ⟨howner, hfree, by simp only [authority, hacquire, Function.update_self]⟩
    · have hacquire : m.acquire k owner = .error (.conflict k (m.leases k).owner) := by
        rw [acquire, refuse, if_neg howner, refuse, if_pos hfree]
        rfl
      exact .inl (by simp only [authority, hacquire])

/-- A release frees the lease for its holder's token, and does nothing otherwise. -/
theorem authority_release (m : ConsoleLeaseManager) (k : TargetKey) (token : Nat) :
    ((m.leases k).token ≠ some token ∧
      authority.step (.release k token) m = (.released false, m)) ∨
      (m.leases k).token = some token ∧ authority.step (.release k token) m =
        (.released true, { m with
          leases := Function.update m.leases k { m.leases k with owner := .free, token := none } }) := by
  by_cases hk : (m.leases k).token = some token
  · exact .inr ⟨hk, by simp only [authority, release, hk, if_true]⟩
  · exact .inl ⟨hk, by simp only [authority, release, hk, if_false]⟩

section Update

variable {m : ConsoleLeaseManager} {k : TargetKey} {lease : ConsoleLease} {drawn : Nat}

/-- One lease was replaced by a consistent one. -/
theorem Consistent.update (hm : m.Consistent) (hlease : lease.owner = .free ↔ lease.token = none) :
    Consistent ⟨Function.update m.leases k lease, drawn⟩ := by
  intro k'
  by_cases heq : k' = k
  · subst heq
    simpa using hlease
  · simpa [heq] using hm k'

theorem table_update_holder : (table ⟨Function.update m.leases k lease, drawn⟩).holder =
    Function.update m.table.holder k lease.token := by
  funext k'
  by_cases heq : k' = k
  · subst heq
    simp [table]
  · simp [table, heq]

theorem table_update_stamp (hle : (m.leases k).generation ≤ lease.generation) (k' : TargetKey) :
    m.table.stamp k' ≤ (table ⟨Function.update m.leases k lease, drawn⟩).stamp k' := by
  by_cases heq : k' = k
  · subst heq
    simpa [table] using hle
  · simp [table, heq]

end Update

theorem authority_refines : authority.Refines Consistent table where
  keeps := by
    intro m c hm
    rw [Authority.next]
    cases c with
    | acquire k owner =>
        rcases m.authority_acquire k owner with hstep | ⟨howner, _, hstep⟩
        · rw [hstep]
          exact hm
        · rw [hstep]
          exact hm.update (by simp [howner])
    | release k token =>
        rcases m.authority_release k token with ⟨_, hstep⟩ | ⟨_, hstep⟩
        · rw [hstep]
          exact hm
        · rw [hstep]
          exact hm.update (by simp)
    | revoke k => exact hm.update (by simp)
  step := by
    intro m c hm
    rw [Authority.next]
    cases c with
    | acquire k owner =>
        rcases m.authority_acquire k owner with hstep | ⟨_, hfree, hstep⟩
        · rw [hstep]
          exact .refused k owner
        · rw [hstep]
          refine .granted k owner _ _ ((hm k).mp hfree) (Nat.lt_irrefl _) (Nat.lt_succ_self _)
            table_update_holder (fun x hx => ?_) (by simp [table])
            (table_update_stamp (Nat.le_succ _))
          cases hx with
          | inl heq => exact heq ▸ Nat.lt_succ_self _
          | inr hdrawn => exact Nat.lt_succ_of_lt hdrawn
    | release k token =>
        rcases m.authority_release k token with ⟨hforeign, hstep⟩ | ⟨hheld, hstep⟩
        · rw [hstep]
          exact .ignored k token hforeign
        · rw [hstep]
          exact .freed k token hheld table_update_holder (fun _ hdrawn => hdrawn)
            (table_update_stamp (Nat.le_refl _))
    | revoke k =>
        exact .revoked k table_update_holder (fun _ hdrawn => hdrawn)
          (table_update_stamp (Nat.le_succ _))
  holder := fun _ => rfl
  frame := by
    intro m c k' hne
    rw [Authority.next]
    cases c with
    | acquire k owner =>
        rcases m.authority_acquire k owner with hstep | ⟨_, _, hstep⟩
        · rw [hstep]
        · rw [hstep]
          exact Function.update_of_ne hne _ _
    | release k token =>
        rcases m.authority_release k token with ⟨_, hstep⟩ | ⟨_, hstep⟩
        · rw [hstep]
        · rw [hstep]
          exact Function.update_of_ne hne _ _
    | revoke k => exact Function.update_of_ne hne _ _
  ignored := by
    intro m c hreply
    rw [Authority.next]
    cases c with
    | acquire k owner =>
        rcases m.authority_acquire k owner with hstep | ⟨_, _, hstep⟩
        · rw [hstep]
        · rw [hstep] at hreply
          simp at hreply
    | release k token =>
        rcases m.authority_release k token with ⟨_, hstep⟩ | ⟨_, hstep⟩
        · rw [hstep]
        · rw [hstep] at hreply
          simp at hreply
    | revoke k => simp [authority] at hreply

/-- A revocation raises the generation of the lease. -/
theorem revoke_generation (m : ConsoleLeaseManager) (k : TargetKey) :
    (m.leases k).generation < ((m.revoke k).leases k).generation := by
  simp [revoke]

end ConsoleLeaseManager

/-- In every state any calls lead to, the guard and the leases have single owners. -/
theorem single_owner (fence drawn : Nat) :
    (∀ cs, StopCapableGuard.authority.SingleOwner
      (StopCapableGuard.authority.after cs (.free fence))) ∧
    (∀ cs, ConsoleLeaseManager.authority.SingleOwner
      (ConsoleLeaseManager.authority.after cs (.free drawn))) ∧
    ∀ (m : ConsoleLeaseManager) (k : TargetKey),
      (m.leases k).generation < ((m.revoke k).leases k).generation := by
  refine ⟨fun cs => ?_, fun cs => ?_, ConsoleLeaseManager.revoke_generation⟩
  · refine StopCapableGuard.authority_refines.singleOwner cs ?_ ⟨?_, ?_⟩
    · intro k token hk
      cases hk
    · intro k token hk
      cases hk
    · intro k k' token hk
      cases hk
  · refine ConsoleLeaseManager.authority_refines.singleOwner cs ?_ ⟨?_, ?_⟩
    · exact fun k => ⟨fun _ => rfl, fun _ => rfl⟩
    · intro k token hk
      cases hk
    · intro k k' token hk
      cases hk

end Kdive

import Kdive.Lib.Association
import Kdive.Transport.SerialLocal

/-!
# A ledger of attach resources

For each session the resources that attaches acquired are those that were released,
those the tables of the transport hold, and those the attach has in hand while it runs.
A process counts as released once it was stopped.

A close moves entries from the tables to the released ones, and an attach that is run to
its end leaves nothing in hand.
-/

namespace Kdive

open Association

/-- The resource is a process. -/
def AttachResource.isChild : AttachResource → Bool
  | .proxyChild _ => true
  | _ => false

namespace Backends

variable (b : Backends)

/-- What the tables hold. -/
def tabled : List (Nat × AttachResource) :=
  b.bridges.map (fun e => (e.2, .bridge e.1)) ++ b.bridgeLocks.map (fun e => (e.2, .sourceLock)) ++
    b.proxyHandles.map (fun e => (e.2, .proxyHandle e.1)) ++
    b.proxyLocks.map fun e => (e.2, .sourceLock)

/-- The keys of the tables. -/
structure Keyed : Prop where
  bridges : (b.bridges.map Prod.fst).Nodup
  bridgeLocks : (b.bridgeLocks.map Prod.fst).Nodup
  proxyHandles : (b.proxyHandles.map Prod.fst).Nodup
  proxyLocks : (b.proxyLocks.map Prod.fst).Nodup

/-- The tables hold nothing for the session. -/
def HoldsNothing (s : Nat) : Prop := ∀ e ∈ b.tabled, e.1 ≠ s

instance (s : Nat) : Decidable (b.HoldsNothing s) := inferInstanceAs (Decidable (∀ e ∈ _, _))

/-- The books of a session whose attach has `hand` in hand. -/
structure Accounted (s : Nat) (hand : List AttachResource) : Prop where
  balanced : ∀ r, r.isChild = false →
    b.acquired.count (s, r) = (b.released ++ b.tabled).count (s, r) + hand.count r
  stopped : ∀ c, (s, .proxyChild c) ∈ b.acquired →
    c ∈ b.reaped ∨ .proxyChild c ∈ hand ∨ (s, .proxyHandle c) ∈ b.tabled

/-- Each resource that was acquired for the session was released once. -/
structure ReleasedOnce (s : Nat) : Prop where
  balanced : ∀ r, r.isChild = false → b.acquired.count (s, r) = b.released.count (s, r)
  stopped : ∀ c, (s, .proxyChild c) ∈ b.acquired → c ∈ b.reaped

/-- Nothing was acquired for the session. -/
def Untouched (s : Nat) : Prop := ∀ e ∈ b.acquired ++ (b.released ++ b.tabled), e.1 ≠ s

variable {b} {s : Nat} {hand : List AttachResource}

theorem count_of_ne {l : List (Nat × AttachResource)} (h : ∀ e ∈ l, e.1 ≠ s) (r : AttachResource) :
    l.count (s, r) = 0 :=
  List.count_eq_zero.mpr fun hmem => h _ hmem rfl

theorem Accounted.releasedOnce (h : b.Accounted s []) (hnothing : b.HoldsNothing s) :
    b.ReleasedOnce s where
  balanced := fun r hr => by
    have hbalanced := h.balanced r hr
    rw [List.count_append, count_of_ne hnothing] at hbalanced
    simpa using hbalanced
  stopped := fun c hc => by
    obtain hreaped | hhand | htabled := h.stopped c hc
    · exact hreaped
    · exact absurd hhand List.not_mem_nil
    · exact absurd rfl (hnothing _ htabled)

theorem Untouched.accounted (h : b.Untouched s) : b.Accounted s [] where
  balanced := fun r _ => by
    have hacquired : ∀ e ∈ b.acquired, e.1 ≠ s := fun e he => h e (List.mem_append_left _ he)
    have hrest : ∀ e ∈ b.released ++ b.tabled, e.1 ≠ s := fun e he =>
      h e (List.mem_append_right _ he)
    rw [count_of_ne hacquired, count_of_ne hrest]
    rfl
  stopped := fun c hc => absurd rfl (h _ (List.mem_append_left _ hc))

theorem Untouched.holdsNothing (h : b.Untouched s) : b.HoldsNothing s := fun e he =>
  h e (List.mem_append_right _ (List.mem_append_right _ he))

/-! ## Closes -/

/-- A step that moves entries of the tables to the released ones, and stops the process of
an entry that it moves. -/
structure Moves (b b' : Backends) : Prop where
  acquired : b'.acquired = b.acquired
  perm : (b'.released ++ b'.tabled).Perm (b.released ++ b.tabled)
  tabled : ∀ e ∈ b'.tabled, e ∈ b.tabled
  reaped : ∀ c ∈ b.reaped, c ∈ b'.reaped
  stopped : ∀ s c, (s, .proxyHandle c) ∈ b.tabled →
    c ∈ b'.reaped ∨ (s, .proxyHandle c) ∈ b'.tabled
  keyed : b.Keyed → b'.Keyed

variable {b' : Backends}

theorem Moves.refl (b : Backends) : b.Moves b :=
  ⟨rfl, .refl _, fun _ => id, fun _ => id, fun _ _ => .inr, id⟩

theorem Moves.trans {b'' : Backends} (h : b.Moves b') (h' : b'.Moves b'') : b.Moves b'' where
  acquired := h'.acquired.trans h.acquired
  perm := h'.perm.trans h.perm
  tabled := fun e he => h.tabled e (h'.tabled e he)
  reaped := fun c hc => h'.reaped c (h.reaped c hc)
  stopped := fun s c hc => (h.stopped s c hc).elim (fun hc => .inl (h'.reaped c hc)) (h'.stopped s c)
  keyed := fun hk => h'.keyed (h.keyed hk)

theorem Accounted.moves (h : b.Accounted s hand) (hm : b.Moves b') : b'.Accounted s hand where
  balanced := fun r hr => by rw [hm.acquired, hm.perm.count_eq, h.balanced r hr]
  stopped := fun c hc => by
    obtain hreaped | hhand | htabled := h.stopped c (hm.acquired ▸ hc)
    · exact .inl (hm.reaped c hreaped)
    · exact .inr (.inl hhand)
    · exact (hm.stopped s c htabled).imp_right .inr

theorem Untouched.moves (h : b.Untouched s) (hm : b.Moves b') : b'.Untouched s := by
  intro e he
  rw [hm.acquired, List.mem_append, hm.perm.mem_iff, ← List.mem_append] at he
  exact h e he

theorem HoldsNothing.moves (h : b.HoldsNothing s) (hm : b.Moves b') : b'.HoldsNothing s :=
  fun e he => h e (hm.tabled e he)

/-- A stop moves nothing. -/
theorem moves_reap (x : BackendIdentity) : b.Moves (b.reap x) := by
  unfold reap
  split
  · exact .refl b
  · exact ⟨rfl, .refl _, fun _ => id, fun _ hc => List.mem_append_left _ hc, fun _ _ => .inr,
      fun h => ⟨h.1, h.2, h.3, h.4⟩⟩

/-- Close the lock of a proxy. -/
theorem moves_proxyLock {x : BackendIdentity} {sid : Nat} (hk : b.Keyed)
    (hfound : b.proxyLocks.lookup x = some sid) :
    b.Moves { b.release sid .sourceLock with
      proxyLocks := b.proxyLocks.filter (·.1 ≠ x) } := by
  have hpop := perm_filter hk.proxyLocks hfound
  refine ⟨rfl, List.perm_iff_count.mpr fun e => ?_, fun e he => ?_, fun _ => id, fun s c hc => ?_,
    fun hk => ⟨hk.1, hk.2, hk.3, hk.4.sublist (List.filter_sublist.map _)⟩⟩
  · have hcount := (hpop.map fun e => (e.2, AttachResource.sourceLock)).count_eq e
    simp only [List.map_cons, List.count_cons] at hcount
    simp only [tabled, release, List.count_append, List.count_singleton]
    omega
  · simp only [tabled, release, List.mem_append] at he ⊢
    exact he.imp_right fun he => (List.filter_sublist.map _).subset he
  · right
    simp only [tabled, release, List.mem_append] at hc ⊢
    refine hc.imp_right fun hc => ?_
    obtain ⟨e, _, heq⟩ := List.mem_map.mp hc
    cases heq

end Backends

end Kdive

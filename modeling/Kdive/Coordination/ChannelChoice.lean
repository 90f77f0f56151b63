import Kdive.Coordination.Selection

/-!
# Which channel is chosen

`selectStopCapableChannel` under `referencePlan`, read as an order on channels
and methods: the first channel of the list that offers the capabilities and has
a usable method, and of its usable methods the preferred one.  What a method
needs of the topology and where it stands in the preference are stated here for
each method alone, without the list that the policy builds.
-/

namespace Kdive.Choice

open Checked

/-! ## Methods -/

/-- What the topology must offer for a method. -/
def Candidate (channel : TransportRef) (platform : PlatformMetadata) : BreakMethod → Prop
  | .gdbstubNative => channel.lineRole = .rsp ∧ "provides_rsp" ∈ channel.caps
  | .uartBreak => channel.lineRole = .dedicatedDebug ∧ "supports_uart_break" ∈ channel.caps
  | .agentProxyBreak => channel.lineRole = .sharedConsole ∧ "supports_uart_break" ∈ channel.caps
  | .sysrqG => platform.sshReachable = true

/-- Where a method stands in the preference, the least first.  The line methods
come before ssh, except that a shared console which is no UART comes after it. -/
def rank (platform : PlatformMetadata) : BreakMethod → Nat
  | .gdbstubNative => 0
  | .uartBreak => 1
  | .agentProxyBreak => if platform.consoleKind = .uart then 2 else 4
  | .sysrqG => 3

theorem rank_injective (platform : PlatformMetadata) {m m' : BreakMethod}
    (h : rank platform m = rank platform m') : m = m' := by
  cases m <;> cases m' <;> simp only [rank] at h <;> first | rfl | (split at h <;> omega) | omega

theorem mem_candidates {channel : TransportRef} {platform : PlatformMetadata}
    {m : BreakMethod} : m ∈ candidates channel platform ↔ Candidate channel platform m := by
  cases m with
  | gdbstubNative => simp [candidates, Candidate]
  | uartBreak => simp [candidates, Candidate]
  | sysrqG => simp [candidates, Candidate]
  | agentProxyBreak =>
      by_cases hconsole : platform.consoleKind = .uart
      · simp [candidates, Candidate, hconsole]
      · simp [candidates, Candidate, hconsole]

/-- The policy lists its candidates in the order of preference. -/
theorem candidates_pairwise (channel : TransportRef) (platform : PlatformMetadata) :
    (candidates channel platform).Pairwise (rank platform · < rank platform ·) := by
  simp only [candidates]
  -- the line role admits one line method at most, and ssh adds one
  cases channel.lineRole <;> by_cases hrsp : "provides_rsp" ∈ channel.caps <;>
    by_cases huart : "supports_uart_break" ∈ channel.caps <;>
    cases platform.sshReachable <;> by_cases hconsole : platform.consoleKind = .uart <;>
    simp [hrsp, huart, hconsole, rank]

section

variable (targetKey : TargetKey) (platform : PlatformMetadata) (disproved : List BreakDisproof)

/-- A method can be used on a channel: the topology offers it, and no disproof
that applies there speaks of it. -/
def Usable (channel : TransportRef) (m : BreakMethod) : Prop :=
  Candidate channel platform m ∧
    ∀ d ∈ disproved, d.AppliesTo targetKey channel → d.method ≠ m

/-- The usable method of a channel that comes first in the preference. -/
def Preferred (channel : TransportRef) (m : BreakMethod) : Prop :=
  Usable targetKey platform disproved channel m ∧
    ∀ other, Usable targetKey platform disproved channel other → rank platform m ≤ rank platform other

/-- The methods the selection rules out on a channel. -/
def disprovedOn (channel : TransportRef) : List BreakMethod :=
  (disproved.filter (·.AppliesTo targetKey channel)).map BreakDisproof.method

variable {targetKey platform disproved}

theorem mem_disprovedOn {channel : TransportRef} {m : BreakMethod} :
    m ∈ disprovedOn targetKey disproved channel ↔
      ∃ d ∈ disproved, d.AppliesTo targetKey channel ∧ d.method = m := by
  simp [disprovedOn, and_assoc]

/-- The methods the policy chooses from are the usable ones. -/
theorem mem_admissible {channel : TransportRef} {m : BreakMethod} :
    m ∈ (candidates channel platform).filter (· ∉ disprovedOn targetKey disproved channel) ↔
      Usable targetKey platform disproved channel m := by
  simp only [List.mem_filter, mem_candidates, decide_eq_true_eq, mem_disprovedOn, Usable]
  constructor
  · rintro ⟨hcandidate, hnone⟩
    exact ⟨hcandidate, fun d hd happlies hm => hnone ⟨d, hd, happlies, hm⟩⟩
  · rintro ⟨hcandidate, hnone⟩
    exact ⟨hcandidate, fun ⟨d, hd, happlies, hm⟩ => hnone d hd happlies hm⟩

/-- The first method left on the policy's list is the preferred one. -/
theorem preferred_of_cons {channel : TransportRef} {best : BreakMethod} {rest : List BreakMethod}
    (h : (candidates channel platform).filter (· ∉ disprovedOn targetKey disproved channel)
      = best :: rest) :
    Preferred targetKey platform disproved channel best := by
  have hsorted := (candidates_pairwise channel platform).filter
    (fun m => decide (m ∉ disprovedOn targetKey disproved channel))
  rw [h] at hsorted
  refine ⟨mem_admissible.mp (h ▸ List.mem_cons_self), fun other hother => ?_⟩
  have hin := mem_admissible.mpr hother
  rw [h] at hin
  rcases List.mem_cons.mp hin with rfl | hin
  · exact Nat.le_refl _
  · exact Nat.le_of_lt (List.rel_of_pairwise_cons hsorted hin)

theorem Preferred.unique {channel : TransportRef} {m m' : BreakMethod}
    (h : Preferred targetKey platform disproved channel m)
    (h' : Preferred targetKey platform disproved channel m') : m = m' :=
  rank_injective platform (Nat.le_antisymm (h.2 m' h'.1) (h'.2 m h.1))

/-! ## The plan of one channel -/

/-- The plan the policy makes with a method. -/
def planWith (channel : TransportRef) (m : BreakMethod) : BreakPlan :=
  ⟨m, channel.channelId, breakRationale m⟩

/-- What the policy answers is decided by the first usable method. -/
theorem referencePlan_eq (targetKey : TargetKey) (platform : PlatformMetadata)
    (disproved : List BreakDisproof) (channel : TransportRef) :
    (∃ best, Preferred targetKey platform disproved channel best ∧
      referencePlan channel platform (disprovedOn targetKey disproved channel)
        = .ok (planWith channel best)) ∨
    ((∀ m, ¬ Usable targetKey platform disproved channel m) ∧
      ∃ e, referencePlan channel platform (disprovedOn targetKey disproved channel) = .error e ∧
        (e.code = .breakDisproved ↔ ∃ m, Candidate channel platform m)) := by
  cases hall : candidates channel platform with
  | nil =>
      have hnone : ∀ m, ¬ Candidate channel platform m := by
        intro m hm
        have hmem := mem_candidates.mpr hm
        rw [hall] at hmem
        cases hmem
      refine Or.inr ⟨fun m hm => hnone m hm.1, _, by rw [referencePlan, hall], ?_⟩
      simpa using hnone
  | cons first others =>
      have hcandidate : Candidate channel platform first :=
        mem_candidates.mp (hall ▸ List.mem_cons_self)
      cases hleft : (candidates channel platform).filter
          (· ∉ disprovedOn targetKey disproved channel) with
      | nil =>
          have hpick := hleft
          rw [hall] at hpick
          refine Or.inr ⟨fun m hm => ?_, _, by rw [referencePlan, hall]; dsimp only; rw [hpick], ?_⟩
          · have hmem := mem_admissible.mpr hm
            rw [hleft] at hmem
            cases hmem
          · simpa using ⟨first, hcandidate⟩
      | cons best rest =>
          have hpick := hleft
          rw [hall] at hpick
          exact Or.inl ⟨best, preferred_of_cons hleft,
            by rw [referencePlan, hall]; dsimp only; rw [hpick, planWith]⟩

/-- A channel is planned for with its preferred method. -/
theorem plan_ok_iff {channel : TransportRef} {plan : BreakPlan} :
    referencePlan channel platform (disprovedOn targetKey disproved channel) = .ok plan ↔
      Preferred targetKey platform disproved channel plan.method ∧
        plan = planWith channel plan.method := by
  obtain ⟨best, hbest, heq⟩ | ⟨hnone, e, heq, -⟩ :=
    referencePlan_eq targetKey platform disproved channel
  · rw [heq]
    constructor
    · intro h
      cases h
      exact ⟨hbest, rfl⟩
    · rintro ⟨hpreferred, hplan⟩
      rw [hplan, hbest.unique hpreferred]
  · rw [heq]
    constructor
    · intro h
      cases h
    · rintro ⟨hpreferred, -⟩
      exact absurd hpreferred.1 (hnone _)

/-- A channel has no plan when no method is usable on it. -/
theorem plan_error_iff {channel : TransportRef} :
    (∃ e, referencePlan channel platform (disprovedOn targetKey disproved channel) = .error e) ↔
      ∀ m, ¬ Usable targetKey platform disproved channel m := by
  obtain ⟨best, hbest, heq⟩ | ⟨hnone, e, heq, -⟩ :=
    referencePlan_eq targetKey platform disproved channel
  · rw [heq]
    constructor
    · rintro ⟨e, h⟩
      cases h
    · intro h
      exact absurd hbest.1 (h best)
  · exact ⟨fun _ => hnone, fun _ => ⟨e, heq⟩⟩

/-- Which code a channel without a plan gives. -/
theorem plan_error_code {channel : TransportRef} {e : BreakPlanError}
    (h : referencePlan channel platform (disprovedOn targetKey disproved channel) = .error e) :
    e.code = .breakDisproved ↔ ∃ m, Candidate channel platform m := by
  obtain ⟨best, -, heq⟩ | ⟨-, e', heq, hcode⟩ :=
    referencePlan_eq targetKey platform disproved channel
  · rw [h] at heq
    cases heq
  · rw [h] at heq
    cases heq
    exact hcode

end

/-! ## The search -/

section

variable {targetKey : TargetKey} {platform : PlatformMetadata} {disproved : List BreakDisproof}

theorem selectFrom_cons (saw : Bool) (channel : TransportRef) (rest : List TransportRef) :
    selectFrom targetKey platform referencePlan disproved saw (channel :: rest) =
      match referencePlan channel platform (disprovedOn targetKey disproved channel) with
      | .ok plan => .ok ⟨channel, plan⟩
      | .error e => selectFrom targetKey platform referencePlan disproved
          (saw || e.code = .breakDisproved) rest := rfl

/-- The search ends at the first channel with a plan. -/
theorem selectFrom_ok_iff {selection : Selection} {channels : List TransportRef} {saw : Bool} :
    selectFrom targetKey platform referencePlan disproved saw channels = .ok selection ↔
      ∃ before after, channels = before ++ selection.channel :: after ∧
        (∀ c ∈ before, ∀ m, ¬ Usable targetKey platform disproved c m) ∧
        Preferred targetKey platform disproved selection.channel selection.breakPlan.method ∧
        selection.breakPlan = planWith selection.channel selection.breakPlan.method := by
  induction channels generalizing saw with
  | nil => simp [selectFrom]
  | cons channel rest ih =>
      rw [selectFrom_cons]
      cases hplan : referencePlan channel platform (disprovedOn targetKey disproved channel) with
      | ok plan =>
          obtain ⟨hpreferred, hwith⟩ := plan_ok_iff.mp hplan
          constructor
          · intro h
            cases h
            exact ⟨[], rest, rfl, by simp, hpreferred, hwith⟩
          · rintro ⟨before, after, hsplit, hbefore, hchosen, hplanned⟩
            cases before with
            | nil =>
                obtain ⟨rfl, rfl⟩ := List.cons.inj hsplit
                rw [hwith, hpreferred.unique hchosen, ← hplanned]
            | cons c before =>
                obtain ⟨rfl, -⟩ := List.cons.inj hsplit
                exact absurd hpreferred.1 (hbefore _ List.mem_cons_self _)
      | error e =>
          have hnone := plan_error_iff.mp ⟨e, hplan⟩
          rw [ih]
          constructor
          · rintro ⟨before, after, rfl, hbefore, hchosen⟩
            exact ⟨channel :: before, after, rfl,
              List.forall_mem_cons.mpr ⟨hnone, hbefore⟩, hchosen⟩
          · rintro ⟨before, after, hsplit, hbefore, hchosen⟩
            cases before with
            | nil =>
                obtain ⟨rfl, rfl⟩ := List.cons.inj hsplit
                exact absurd hchosen.1.1 (hnone _)
            | cons c before =>
                obtain ⟨rfl, rfl⟩ := List.cons.inj hsplit
                exact ⟨before, after, rfl, (List.forall_mem_cons.mp hbefore).2, hchosen⟩

/-- What the search raises. -/
def noPlanError (code : SelectionCode) : SelectionError :=
  { message := "no capable channel has an executable break plan", code := code }

/-- A search that fails has found no usable method, and a channel whose
candidates were all disproved decides its code. -/
theorem selectFrom_error {e : SelectionError} {channels : List TransportRef} {saw : Bool}
    (h : selectFrom targetKey platform referencePlan disproved saw channels = .error e) :
    (∀ c ∈ channels, ∀ m, ¬ Usable targetKey platform disproved c m) ∧
      (e = noPlanError .breakDisproved ∧
          (saw = true ∨ ∃ c ∈ channels, ∃ m, Candidate c platform m) ∨
        e = noPlanError .noBreakPlan ∧
          saw = false ∧ ∀ c ∈ channels, ∀ m, ¬ Candidate c platform m) := by
  induction channels generalizing saw with
  | nil =>
      cases h
      cases saw <;> simp [noPlanError]
  | cons channel rest ih =>
      rw [selectFrom_cons] at h
      cases hplan : referencePlan channel platform (disprovedOn targetKey disproved channel) with
      | ok plan =>
          rw [hplan] at h
          cases h
      | error err =>
          rw [hplan] at h
          obtain ⟨hrest, hcode⟩ := ih h
          refine ⟨List.forall_mem_cons.mpr ⟨plan_error_iff.mp ⟨err, hplan⟩, hrest⟩, ?_⟩
          have herr := plan_error_code hplan
          rcases hcode with ⟨hcode, hsaw | ⟨c, hc, hm⟩⟩ | ⟨hcode, hsaw, hnone⟩
          · rw [Bool.or_eq_true, decide_eq_true_eq, herr] at hsaw
            refine Or.inl ⟨hcode, ?_⟩
            rcases hsaw with hsaw | hm
            · exact Or.inl hsaw
            · exact Or.inr ⟨channel, List.mem_cons_self, hm⟩
          · exact Or.inl ⟨hcode, Or.inr ⟨c, List.mem_cons_of_mem _ hc, hm⟩⟩
          · rw [Bool.or_eq_false_iff, decide_eq_false_iff_not, herr] at hsaw
            exact Or.inr ⟨hcode, hsaw.1,
              List.forall_mem_cons.mpr ⟨fun m hm => hsaw.2 ⟨m, hm⟩, hnone⟩⟩

/-- Disproofs that agree wherever they apply plan every channel alike. -/
theorem selectFrom_congr {disproved' : List BreakDisproof} {channels : List TransportRef}
    (h : ∀ c ∈ channels, ∀ d : BreakDisproof, d.AppliesTo targetKey c →
      (d ∈ disproved' ↔ d ∈ disproved)) (saw : Bool) :
    selectFrom targetKey platform referencePlan disproved' saw channels =
      selectFrom targetKey platform referencePlan disproved saw channels := by
  induction channels generalizing saw with
  | nil => rfl
  | cons channel rest ih =>
      obtain ⟨hhere, hrest⟩ := List.forall_mem_cons.mp h
      have hmem : ∀ m, m ∈ disprovedOn targetKey disproved' channel ↔
          m ∈ disprovedOn targetKey disproved channel := by
        intro m
        rw [mem_disprovedOn, mem_disprovedOn]
        constructor
        · rintro ⟨d, hd, happlies, hm⟩
          exact ⟨d, (hhere d happlies).mp hd, happlies, hm⟩
        · rintro ⟨d, hd, happlies, hm⟩
          exact ⟨d, (hhere d happlies).mpr hd, happlies, hm⟩
      have hplan : referencePlan channel platform (disprovedOn targetKey disproved' channel) =
          referencePlan channel platform (disprovedOn targetKey disproved channel) := by
        simp only [referencePlan, hmem]
      rw [selectFrom_cons, selectFrom_cons, hplan]
      cases referencePlan channel platform (disprovedOn targetKey disproved channel) with
      | ok plan => rfl
      | error e => exact ih hrest _

end

/-! ## The choice -/

/-- A channel offers every required capability. -/
def Capable (requiredCaps : List String) (channel : TransportRef) : Prop :=
  ∀ cap ∈ requiredCaps, cap ∈ channel.caps

/-- A channel has candidates, and each of them was disproved for it. -/
def AllDisproved (targetKey : TargetKey) (platform : PlatformMetadata)
    (disproved : List BreakDisproof) (channel : TransportRef) : Prop :=
  (∃ m, Candidate channel platform m) ∧
    ∀ m, Candidate channel platform m →
      ∃ d ∈ disproved, d.AppliesTo targetKey channel ∧ d.method = m

/-- The selection is the first of the list: behind channels that lack a
capability or a usable method, with the preferred method of its own channel. -/
structure FirstUsable (targetKey : TargetKey) (transports : List TransportRef)
    (requiredCaps : List String) (platform : PlatformMetadata) (disproved : List BreakDisproof)
    (before : List TransportRef) (selection : Selection) (after : List TransportRef) : Prop where
  /-- Where its channel stands. -/
  split : transports = before ++ selection.channel :: after
  /-- Its channel offers the capabilities. -/
  capable : Capable requiredCaps selection.channel
  /-- Its method is the first usable one. -/
  preferred : Preferred targetKey platform disproved selection.channel selection.breakPlan.method
  /-- The plan is for that channel. -/
  planned : selection.breakPlan = planWith selection.channel selection.breakPlan.method
  /-- The channels before it cannot be used. -/
  passed : ∀ c ∈ before, Capable requiredCaps c → ∀ m, ¬ Usable targetKey platform disproved c m

section

variable {targetKey : TargetKey} {transports : List TransportRef} {requiredCaps : List String}
variable {platform : PlatformMetadata} {disproved disproved' : List BreakDisproof}

theorem Usable.anti {channel : TransportRef} {m : BreakMethod} (hsub : disproved ⊆ disproved')
    (h : Usable targetKey platform disproved' channel m) :
    Usable targetKey platform disproved channel m :=
  ⟨h.1, fun d hd => h.2 d (hsub hd)⟩

instance (channel : TransportRef) : Decidable (Capable requiredCaps channel) :=
  inferInstanceAs (Decidable (∀ cap ∈ requiredCaps, cap ∈ channel.caps))

/-- The channels the search goes through. -/
def capableOf (requiredCaps : List String) (transports : List TransportRef) : List TransportRef :=
  transports.filter fun channel => Capable requiredCaps channel

theorem mem_capableOf {channel : TransportRef} :
    channel ∈ capableOf requiredCaps transports ↔
      channel ∈ transports ∧ Capable requiredCaps channel := by
  simp [capableOf]

/-- What a list without a capable channel raises. -/
def noCapableError : SelectionError :=
  { message := "no channel satisfies the required caps", code := .noCapableChannel }

theorem select_eq (targetKey : TargetKey) (transports : List TransportRef)
    (requiredCaps : List String) (platform : PlatformMetadata) (disproved : List BreakDisproof) :
    selectStopCapableChannel targetKey transports requiredCaps platform referencePlan disproved =
      if capableOf requiredCaps transports = [] then .error noCapableError
      else selectFrom targetKey platform referencePlan disproved false
        (capableOf requiredCaps transports) := by
  have hbind : selectStopCapableChannel targetKey transports requiredCaps platform referencePlan
      disproved = (refuse (capableOf requiredCaps transports = []) noCapableError >>= fun _ =>
        selectFrom targetKey platform referencePlan disproved false
          (capableOf requiredCaps transports)) := rfl
  rw [hbind]
  split
  · rename_i hcapable
    rw [refuse_of hcapable]
    rfl
  · rename_i hcapable
    rw [refuse_of_not hcapable]
    rfl

/-- The selection is the first usable channel with its preferred method. -/
theorem select_ok_iff {selection : Selection} :
    selectStopCapableChannel targetKey transports requiredCaps platform referencePlan disproved
        = .ok selection ↔
      ∃ before after, FirstUsable targetKey transports requiredCaps platform disproved
        before selection after := by
  have hsearch : selectStopCapableChannel targetKey transports requiredCaps platform referencePlan
      disproved = .ok selection ↔ selectFrom targetKey platform referencePlan disproved false
        (capableOf requiredCaps transports) = .ok selection := by
    rw [select_eq]
    split
    · rename_i hcapable
      rw [hcapable]
      constructor <;> intro h <;> cases h
    · rfl
  rw [hsearch, selectFrom_ok_iff]
  constructor
  · rintro ⟨before, after, hsplit, hbefore, hpreferred, hplanned⟩
    -- the capable channels split where the list itself does
    obtain ⟨front, back, rfl, rfl, hback⟩ := List.filter_eq_append_iff.mp hsplit
    obtain ⟨skipped, rest, rfl, hskipped, hcapable, -⟩ := List.filter_eq_cons_iff.mp hback
    refine ⟨front ++ skipped, rest,
      (List.append_assoc front skipped _).symm, of_decide_eq_true hcapable, hpreferred, hplanned,
      fun c hc hc' => ?_⟩
    rcases List.mem_append.mp hc with hc | hc
    · exact hbefore c (List.mem_filter.mpr ⟨hc, decide_eq_true hc'⟩)
    · exact absurd (decide_eq_true hc') (hskipped c hc)
  · rintro ⟨before, after, h⟩
    refine ⟨capableOf requiredCaps before, capableOf requiredCaps after, ?_, fun c hc => ?_,
      h.preferred, h.planned⟩
    · rw [h.split, capableOf, List.filter_append]
      simp only [List.filter_cons, h.capable, decide_true, if_true]
      rfl
    · obtain ⟨hmem, hcapable⟩ := mem_capableOf.mp hc
      exact h.passed c hmem hcapable

/-- What an error says of the channels. -/
theorem select_error {e : SelectionError}
    (h : selectStopCapableChannel targetKey transports requiredCaps platform referencePlan disproved
      = .error e) :
    (∀ c ∈ transports, Capable requiredCaps c → ∀ m, ¬ Usable targetKey platform disproved c m) ∧
      (e = noCapableError ∧ (∀ c ∈ transports, ¬ Capable requiredCaps c) ∨
        (∃ c ∈ transports, Capable requiredCaps c) ∧
          (e = noPlanError .breakDisproved ∧
              (∃ c ∈ transports, Capable requiredCaps c ∧ ∃ m, Candidate c platform m) ∨
            e = noPlanError .noBreakPlan ∧
              ∀ c ∈ transports, Capable requiredCaps c → ∀ m, ¬ Candidate c platform m)) := by
  rw [select_eq] at h
  split at h
  · rename_i hcapable
    cases h
    have hnone : ∀ c ∈ transports, ¬ Capable requiredCaps c := by
      intro c hc hcap
      have hmem := mem_capableOf.mpr ⟨hc, hcap⟩
      rw [hcapable] at hmem
      cases hmem
    exact ⟨fun c hc hcap => absurd hcap (hnone c hc), Or.inl ⟨rfl, hnone⟩⟩
  · rename_i hcapable
    obtain ⟨c, hc⟩ := List.exists_mem_of_ne_nil _ hcapable
    obtain ⟨hnone, hcode⟩ := selectFrom_error h
    refine ⟨fun c hc hcap => hnone c (mem_capableOf.mpr ⟨hc, hcap⟩),
      Or.inr ⟨⟨c, (mem_capableOf.mp hc).1, (mem_capableOf.mp hc).2⟩, ?_⟩⟩
    rcases hcode with ⟨rfl, hsaw | ⟨d, hd, hm⟩⟩ | ⟨rfl, -, hall⟩
    · cases hsaw
    · exact Or.inl ⟨rfl, d, (mem_capableOf.mp hd).1, (mem_capableOf.mp hd).2, hm⟩
    · exact Or.inr ⟨rfl, fun c hc hcap => hall c (mem_capableOf.mpr ⟨hc, hcap⟩)⟩

/-- On a channel without a usable method, having a candidate is having them all disproved. -/
theorem allDisproved_iff {channel : TransportRef}
    (h : ∀ m, ¬ Usable targetKey platform disproved channel m) :
    AllDisproved targetKey platform disproved channel ↔ ∃ m, Candidate channel platform m := by
  constructor
  · exact And.left
  · intro hcandidate
    refine ⟨hcandidate, fun m hm => ?_⟩
    by_contra hnone
    exact h m ⟨hm, fun d hd happlies hmethod => hnone ⟨d, hd, happlies, hmethod⟩⟩

/-- Of two places in one list, the later one has the earlier before it. -/
theorem mem_of_earlier {α : Type} {b b' a a' : List α} {x x' : α}
    (h : b ++ x :: a = b' ++ x' :: a') (hlt : b'.length < b.length) : x' ∈ b := by
  obtain ⟨t, rfl, ht⟩ | ⟨t, rfl, ht⟩ := List.append_eq_append_iff.mp h
  · rw [List.length_append] at hlt
    omega
  · cases t with
    | nil =>
        rw [List.append_nil] at hlt
        omega
    | cons y t =>
        obtain ⟨rfl, -⟩ := List.cons.inj ht
        simp

/-- A selection made with more disproofs is no better than the one made with fewer. -/
theorem FirstUsable.mono {before before' after after' : List TransportRef}
    {selection selection' : Selection} (hsub : disproved ⊆ disproved')
    (h : FirstUsable targetKey transports requiredCaps platform disproved before selection after)
    (h' : FirstUsable targetKey transports requiredCaps platform disproved'
      before' selection' after') :
    before.length ≤ before'.length ∧ (before.length = before'.length →
      rank platform selection.breakPlan.method ≤ rank platform selection'.breakPlan.method) := by
  have hsplit := h.split.symm.trans h'.split
  have husable := h'.preferred.1.anti hsub
  constructor
  · by_contra hlater
    exact h.passed _ (mem_of_earlier hsplit (by omega)) h'.capable _ husable
  · intro hlength
    have hsame := (List.cons.inj (List.append_inj hsplit hlength).2).1
    rw [← hsame] at husable
    exact h.preferred.2 _ husable

/-- Further disproofs that do not apply to the selected channel leave it selected. -/
theorem FirstUsable.frame {before after : List TransportRef} {selection : Selection}
    (hsub : disproved ⊆ disproved')
    (hnew : ∀ d ∈ disproved', d ∉ disproved → ¬ d.AppliesTo targetKey selection.channel)
    (h : FirstUsable targetKey transports requiredCaps platform disproved before selection after) :
    FirstUsable targetKey transports requiredCaps platform disproved' before selection after where
  split := h.split
  capable := h.capable
  planned := h.planned
  passed c hc hcap m hm := h.passed c hc hcap m (hm.anti hsub)
  preferred := by
    obtain ⟨⟨hcandidate, hnone⟩, hfirst⟩ := h.preferred
    refine ⟨⟨hcandidate, fun d hd happlies => ?_⟩, fun other hother => hfirst other (hother.anti hsub)⟩
    by_cases hold : d ∈ disproved
    · exact hnone d hold happlies
    · exact absurd happlies (hnew d hd hold)

/-- A failed selection fails alike with more disproofs. -/
theorem select_error_mono {e : SelectionError} (hsub : disproved ⊆ disproved')
    (h : selectStopCapableChannel targetKey transports requiredCaps platform referencePlan disproved
      = .error e) :
    selectStopCapableChannel targetKey transports requiredCaps platform referencePlan disproved'
      = .error e := by
  obtain ⟨hnone, hcode⟩ := select_error h
  cases h' : selectStopCapableChannel targetKey transports requiredCaps platform referencePlan
      disproved' with
  | ok selection =>
      obtain ⟨before, after, hfirst⟩ := select_ok_iff.mp h'
      have hmem : selection.channel ∈ transports := by
        rw [hfirst.split]
        simp
      exact absurd (hfirst.preferred.1.anti hsub) (hnone _ hmem hfirst.capable _)
  | error e' =>
      obtain ⟨-, hcode'⟩ := select_error h'
      congr 1
      -- the two codes are decided by the capable channels and their candidates alone
      rcases hcode with ⟨rfl, hall⟩ | ⟨⟨c, hc, hcap⟩, hcode⟩
      · rcases hcode' with ⟨rfl, -⟩ | ⟨⟨c, hc, hcap⟩, -⟩
        · rfl
        · exact absurd hcap (hall c hc)
      · rcases hcode' with ⟨-, hall⟩ | ⟨-, hcode'⟩
        · exact absurd hcap (hall c hc)
        · rcases hcode with ⟨rfl, d, hd, hdcap, m, hm⟩ | ⟨rfl, hnocand⟩ <;>
            rcases hcode' with ⟨rfl, d', hd', hdcap', m', hm'⟩ | ⟨rfl, hnocand'⟩
          · rfl
          · exact absurd hm (hnocand' d hd hdcap m)
          · exact absurd hm' (hnocand d' hd' hdcap' m')
          · rfl

end

/-- The selection law.  A selection is the first capable channel with a usable
method, with the preferred one; an error's code says which kind of channel there
was; more disproofs never select an earlier channel or a preferred method; and
disproofs that apply to none of the channels, or none that apply to the selected
one, change nothing. -/
theorem selection_law (targetKey : TargetKey) (transports : List TransportRef)
    (requiredCaps : List String) (platform : PlatformMetadata) (disproved : List BreakDisproof) :
    (∀ selection,
      selectStopCapableChannel targetKey transports requiredCaps platform referencePlan disproved
          = .ok selection ↔
        ∃ before after, FirstUsable targetKey transports requiredCaps platform disproved
          before selection after) ∧
    (∀ e,
      selectStopCapableChannel targetKey transports requiredCaps platform referencePlan disproved
          = .error e →
        (e.code = .noCapableChannel ↔ ∀ c ∈ transports, ¬ Capable requiredCaps c) ∧
        (e.code = .breakDisproved ↔
          ∃ c ∈ transports, Capable requiredCaps c ∧ AllDisproved targetKey platform disproved c) ∧
        (e.code = .noBreakPlan ↔ (∃ c ∈ transports, Capable requiredCaps c) ∧
          ¬ ∃ c ∈ transports, Capable requiredCaps c ∧
            AllDisproved targetKey platform disproved c)) ∧
    (∀ disproved' : List BreakDisproof, disproved ⊆ disproved' →
      (∀ before' selection' after',
        FirstUsable targetKey transports requiredCaps platform disproved'
          before' selection' after' →
        ∃ before selection after,
          FirstUsable targetKey transports requiredCaps platform disproved
            before selection after ∧
          before.length ≤ before'.length ∧ (before.length = before'.length →
            rank platform selection.breakPlan.method ≤
              rank platform selection'.breakPlan.method)) ∧
      (∀ e,
        selectStopCapableChannel targetKey transports requiredCaps platform referencePlan disproved
            = .error e →
          selectStopCapableChannel targetKey transports requiredCaps platform referencePlan
            disproved' = .error e) ∧
      (∀ selection,
        selectStopCapableChannel targetKey transports requiredCaps platform referencePlan disproved
            = .ok selection →
        (∀ d ∈ disproved', d ∉ disproved → ¬ d.AppliesTo targetKey selection.channel) →
          selectStopCapableChannel targetKey transports requiredCaps platform referencePlan
            disproved' = .ok selection)) ∧
    (∀ disproved' : List BreakDisproof,
      (∀ c ∈ transports, ∀ d : BreakDisproof, d.AppliesTo targetKey c →
        (d ∈ disproved' ↔ d ∈ disproved)) →
      selectStopCapableChannel targetKey transports requiredCaps platform referencePlan disproved' =
        selectStopCapableChannel targetKey transports requiredCaps platform referencePlan
          disproved) := by
  refine ⟨fun selection => select_ok_iff, fun e he => ?_, fun disproved' hsub => ⟨?_, ?_, ?_⟩,
    fun disproved' hagree => ?_⟩
  · obtain ⟨hnone, hcode⟩ := select_error he
    have hdisproved : (∃ c ∈ transports, Capable requiredCaps c ∧
        AllDisproved targetKey platform disproved c) ↔
        ∃ c ∈ transports, Capable requiredCaps c ∧ ∃ m, Candidate c platform m := by
      constructor <;> rintro ⟨c, hc, hcap, h⟩
      · exact ⟨c, hc, hcap, (allDisproved_iff (hnone c hc hcap)).mp h⟩
      · exact ⟨c, hc, hcap, (allDisproved_iff (hnone c hc hcap)).mpr h⟩
    rw [hdisproved]
    rcases hcode with ⟨rfl, hall⟩ | ⟨⟨c, hc, hcap⟩, ⟨rfl, hsome⟩ | ⟨rfl, hnocand⟩⟩
    · simp only [noCapableError, reduceCtorEq, false_iff, true_iff]
      refine ⟨hall, ?_, ?_⟩
      · rintro ⟨c, hc, hcap, -⟩
        exact hall c hc hcap
      · rintro ⟨⟨c, hc, hcap⟩, -⟩
        exact hall c hc hcap
    · simp only [noPlanError, reduceCtorEq, false_iff, true_iff]
      exact ⟨fun hall => hall c hc hcap, hsome, fun h => h.2 hsome⟩
    · simp only [noPlanError, reduceCtorEq, false_iff, true_iff]
      refine ⟨fun hall => hall c hc hcap, ?_, ⟨c, hc, hcap⟩, ?_⟩ <;>
      · rintro ⟨d, hd, hdcap, m, hm⟩
        exact hnocand d hd hdcap m hm
  · intro before' selection' after' h'
    cases h : selectStopCapableChannel targetKey transports requiredCaps platform referencePlan
        disproved with
    | ok selection =>
        obtain ⟨before, after, hfirst⟩ := select_ok_iff.mp h
        exact ⟨before, selection, after, hfirst, hfirst.mono hsub h'⟩
    | error e =>
        have hsame := select_ok_iff.mpr ⟨before', after', h'⟩
        rw [select_error_mono hsub h] at hsame
        cases hsame
  · exact fun e he => select_error_mono hsub he
  · intro selection h hnew
    obtain ⟨before, after, hfirst⟩ := select_ok_iff.mp h
    exact select_ok_iff.mpr ⟨before, after, hfirst.frame hsub hnew⟩
  · rw [select_eq, select_eq, selectFrom_congr]
    intro c hc d happlies
    exact hagree c (mem_capableOf.mp hc).1 d happlies

end Kdive.Choice

import Kdive.Coordination.AdmissionChange
import Kdive.Coordination.ExecProbe
import Kdive.Target.Boot

/-!
# Opening what boot published

A debug session asks for the gdbstub of its run.  The request takes generation
and platform from the snapshot boot published, and names the channel boot put
there.  Admission re-binds it to that channel, and the break policy then plans
how to stop the kernel.

The native plan asks for a channel with `provides_rsp`.  Boot publishes its
channel with `rsp`, so the native plan is never made: a target that answers over
ssh is planned to be stopped by sysrq, any other target not at all.
-/

namespace Kdive

open Checked

/-! ## The request -/

/-- `_debug_open_request`.  A request cannot carry a negative generation. -/
def debugOpenRequestFor (runId : String) (gdbstubEndpoint : List (String × Routing)) :
    Proc OpenRequest := do
  let snapshot ← requireTargetSnapshot (localTarget runId)
  .ofExcept (refuse (snapshot.generation < 0) (.external .exception))
  pure (debugOpenRequest runId gdbstubEndpoint snapshot.generation.toNat snapshot.platform)

/-- The debug session of a run is admitted and planned to stop the kernel through the
stub itself. -/
def OpensNatively (w : World) (runId : String) (endpoint : List (String × Routing))
    (now : Instant) (disproved : List BreakDisproof) : Prop :=
  ∃ request handle admission channel selection,
    ((debugOpenRequestFor runId endpoint).run World.exec w).1 = .ok request ∧
    w.admission.admitOpen (localTarget runId) request now = .ok (handle, admission) ∧
    handle.channel = some channel ∧
    selectStopCapableChannel (localTarget runId) [channel] request.requiredCaps handle.platform
      referencePlan disproved = .ok selection ∧
    selection.channel = channel ∧ selection.breakPlan.method = .gdbstubNative

/-! ## What boot publishes is not planned natively -/

theorem bootSnapshot_caps {attempt : Nat} {endpoint : Option (List (String × Routing))}
    {rootfsProfile : RootfsProfile} {channel : TransportRef}
    (h : channel ∈ (bootSnapshot attempt endpoint rootfsProfile).transports) :
    channel.caps = ["rsp"] := by
  obtain ⟨entries, _, rfl⟩ := List.mem_map.mp h
  rfl

/-- No session of a target whose published snapshot came from boot is planned natively. -/
theorem not_opensNatively {w : World} {runId : String} {attempt : Nat}
    {published : Option (List (String × Routing))} {rootfsProfile : RootfsProfile}
    (hstore : w.admission.store (localTarget runId) =
      some (bootSnapshot attempt published rootfsProfile))
    (endpoint : List (String × Routing)) (now : Instant) (disproved : List BreakDisproof) :
    ¬ OpensNatively w runId endpoint now disproved := by
  rintro ⟨request, handle, admission, channel, selection, -, hgranted, hchannel, hselect, rfl,
    hnative⟩
  obtain ⟨snapshot, channel, hsnapshot, hrebind, hhandle, -⟩ :=
    AdmissionService.admitOpen_channel hgranted
  obtain rfl : selection.channel = channel := Option.some.inj (hchannel.symm.trans hhandle)
  obtain rfl : bootSnapshot attempt published rootfsProfile = snapshot :=
    Option.some.inj (hstore.symm.trans hsnapshot)
  obtain ⟨-, -, methods, hplan⟩ := selectStopCapableChannel_eq_ok hselect
  have hcandidate := (referencePlan_eq_ok hplan).1
  rw [hnative, native_mem_candidates, bootSnapshot_caps (AdmissionService.mem_of_rebind hrebind)]
    at hcandidate
  exact absurd hcandidate.2 (by decide)

/-- The world after a publication that was accepted. -/
theorem exec_publishSnapshot {w : World} {k : TargetKey} {snapshot : TargetSnapshot}
    (hok : (w.exec (.admission (.publishSnapshot k snapshot))).1 = .ok ()) :
    (∀ current ∈ w.admission.store k, current.generation ≤ snapshot.generation) ∧
      (w.exec (.admission (.publishSnapshot k snapshot))).2 =
        w.withAdmission { w.admission with
          store := Function.update w.admission.store k (some snapshot) } := by
  cases hpublish : w.admission.publishSnapshot k snapshot with
  | error e =>
      simp [World.exec, AdmissionService.perform, hpublish, Except.mapError] at hok
  | ok r =>
      obtain ⟨u, s'⟩ := r
      obtain ⟨hnewer, rfl⟩ := AdmissionService.publishSnapshot_eq_ok hpublish
      refine ⟨hnewer, ?_⟩
      rw [World.exec, AdmissionService.after, AdmissionService.perform, hpublish, settle_ok]

/-- Whatever the history of the target, its attempt and its profile: once a boot has
published its snapshot, no debug session of the run is planned natively. -/
theorem boot_never_opensNatively (w : World) (env : BootEnv) (request : BootRequest)
    (before m : RunManifest) (snapshot : TargetSnapshot)
    (hpublished : (targetBoot env request before m).published = some snapshot)
    (hok : (w.exec (.admission (.publishSnapshot (localTarget request.runId) snapshot))).1 = .ok ())
    (endpoint : List (String × Routing)) (now : Instant) (disproved : List BreakDisproof) :
    ¬ OpensNatively (w.exec (.admission (.publishSnapshot (localTarget request.runId) snapshot))).2
      request.runId endpoint now disproved := by
  obtain ⟨attempt, published, rootfsProfile, -, -, rfl⟩ := targetBoot_published hpublished
  obtain ⟨-, hw⟩ := exec_publishSnapshot hok
  rw [hw]
  exact not_opensNatively (Function.update_self ..) endpoint now disproved

/-- The first boot of a run whose guest answers over ssh. -/
def firstBoot : BootOutcome :=
  targetBoot (.calm (some ⟨"127.0.0.1", 1234⟩) ⟨some "192.168.122.5"⟩) ⟨"run", false, false⟩ .unbooted
    .unbooted

/-- The snapshot the first boot publishes. -/
def firstSnapshot : TargetSnapshot :=
  bootSnapshot 1 (some gdbstubEndpoint) ⟨some "192.168.122.5"⟩

/-- The first boot on an empty server. -/
theorem boot_never_opensNatively_first :
    ¬ OpensNatively
      (World.empty.exec (.admission (.publishSnapshot (localTarget "run") firstSnapshot))).2
      "run" gdbstubEndpoint 0 [] :=
  boot_never_opensNatively .empty _ ⟨"run", false, false⟩ .unbooted .unbooted firstSnapshot
    (show firstBoot.published = some firstSnapshot from rfl) rfl gdbstubEndpoint 0 []

/-- A booted run is not always opened natively. -/
theorem not_boot_opensNatively :
    ¬ ∀ (w : World) (env : BootEnv) (request : BootRequest) (before m : RunManifest)
      (snapshot : TargetSnapshot) (endpoint : GdbstubEndpoint),
      (targetBoot env request before m).published = some snapshot →
      snapshot.transports = [gdbstubChannel endpoint.asDict] →
      (w.exec (.admission (.publishSnapshot (localTarget request.runId) snapshot))).1 = .ok () →
      OpensNatively
        (w.exec (.admission (.publishSnapshot (localTarget request.runId) snapshot))).2
        request.runId endpoint.asDict 0 [] := by
  intro hall
  have hopens := hall .empty _ ⟨"run", false, false⟩ .unbooted .unbooted firstSnapshot
    ⟨"127.0.0.1", 1234⟩ (show firstBoot.published = some firstSnapshot from rfl) rfl rfl
  have hstore : (World.empty.exec
      (.admission (.publishSnapshot (localTarget "run") firstSnapshot))).2.admission.store
        (localTarget "run") = some firstSnapshot := rfl
  exact not_opensNatively hstore gdbstubEndpoint 0 [] hopens

/-! ## What the session gets instead -/

theorem GdbstubEndpoint.asDict_eq (e : GdbstubEndpoint) :
    Routing.eq (.map e.asDict) (.map e.asDict) = true := by
  have hlookup : [("host", Routing.str e.host), ("port", Routing.int e.port)].lookup "port" =
      some (Routing.int e.port) := rfl
  simp [GdbstubEndpoint.asDict, Routing.eq, Routing.eqMap, Routing.number?, hlookup]

/-- The request of a debug session with the options a caller put into its channel. -/
def debugRequestWithOpts (runId : String) (endpoint opts : List (String × Routing))
    (attempt : Nat) (sshReachable : Bool) : OpenRequest :=
  { debugOpenRequest runId endpoint attempt (bootPlatform sshReachable) with
    transportRef := { gdbstubChannel endpoint with opts := opts } }

/-- On an open target without a marker in the way the session is admitted for the
channel boot published, whatever its options are. -/
theorem debugOpen_admitted {s : AdmissionService} {runId : String} {attempt : Nat}
    {endpoint : GdbstubEndpoint} {rootfsProfile : RootfsProfile}
    (hstore : s.store (localTarget runId) =
      some (bootSnapshot attempt (some endpoint.asDict) rootfsProfile))
    (hopen : ¬ s.Closed (localTarget runId))
    (hgate : ∀ marker ∈ s.recoveryRequired (localTarget runId), marker < (attempt : Int))
    (opts : List (String × Routing)) (now : Instant) :
    let handle := s.newHandle (localTarget runId) .transportOpen
      (some (gdbstubChannel endpoint.asDict))
      (bootSnapshot attempt (some endpoint.asDict) rootfsProfile) false
    s.admitOpen (localTarget runId) (debugRequestWithOpts runId endpoint.asDict opts attempt
        rootfsProfile.sshHost.isSome) now = .ok (handle, s.registered handle) := by
  intro handle
  have hungated : ¬ AdmissionService.RecoveryGated (s.recoveryRequired (localTarget runId))
      (some (bootSnapshot attempt (some endpoint.asDict) rootfsProfile)) := by
    cases hmarker : s.recoveryRequired (localTarget runId) with
    | none => exact id
    | some marker => exact not_le.mpr (hgate marker (Option.mem_def.mpr hmarker))
  have hbind : s.bindSnapshot (localTarget runId) attempt false =
      .ok (bootSnapshot attempt (some endpoint.asDict) rootfsProfile) := by
    rw [AdmissionService.bindSnapshot_eq_ok, hstore]
    exact ⟨hopen, rfl, rfl, fun _ => hungated⟩
  have hrebind : AdmissionService.rebind { gdbstubChannel endpoint.asDict with opts := opts }
      (bootSnapshot attempt (some endpoint.asDict) rootfsProfile) =
        .ok (gdbstubChannel endpoint.asDict) :=
    AdmissionService.rebind_eq_ok.mpr ⟨rfl, endpoint.asDict_eq, rfl, rfl⟩
  have hvalid : s.validateOpen (localTarget runId) (debugRequestWithOpts runId endpoint.asDict opts
      attempt rootfsProfile.sshHost.isSome) now false =
        .ok (bootSnapshot attempt (some endpoint.asDict) rootfsProfile,
          gdbstubChannel endpoint.asDict) := by
    simp only [AdmissionService.validateOpen, bind_eq_ok]
    exact ⟨(), refuse_of_not (not_not_intro rfl), _, hbind, _, hrebind, (), rfl, (),
      refuse_of_not (not_not_intro rfl), (), rfl, (), rfl, (), rfl, rfl⟩
  rw [AdmissionService.admitOpen, hvalid]
  rfl

/-- A target that answers over ssh is planned to be stopped by sysrq, another one is
refused. -/
theorem select_bootChannel (runId : String) (endpoint : List (String × Routing))
    (sshReachable : Bool) :
    selectStopCapableChannel (localTarget runId) [gdbstubChannel endpoint] ["rsp"]
        (bootPlatform sshReachable) referencePlan [] =
      if sshReachable then
        .ok ⟨gdbstubChannel endpoint, ⟨.sysrqG, "rsp0", breakRationale .sysrqG⟩⟩
      else .error
        { message := "no capable channel has an executable break plan", code := .noBreakPlan } := by
  cases sshReachable <;> rfl

end Kdive

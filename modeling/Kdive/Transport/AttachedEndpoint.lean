import Kdive.Coordination.AdmissionChange
import Kdive.Seams.RoutingEquality
import Kdive.Target.DebugOpen
import Kdive.Transport.Backends

/-!
# The endpoint of an admitted request

Admission re-binds a request to the channel the snapshot offers.  It compares
provider, channel, role, capabilities and routing data.  The open then hands the
caller's request to the transport, whose attach also reads the options, which
nothing compared.

`AgreesWith` is what the options must say for the attach to reach the endpoint
of the snapshot.  The serial transport reads its device from the routing data,
so there the comparison decides all but the uart flag and the printed form of a
host that is not text.
-/

namespace Kdive

open AdmissionService

/-! ## Routing data that was compared -/

section Compared

variable {py : PyText} {offered caller : List (String × Routing)}

/-- Equal values read as the same integer. -/
theorem PyText.toInt_of_eq {v w : Routing} (h : Routing.eq v w = true) :
    py.toInt v = py.toInt w := by
  have hnumber := Routing.eq_number h
  cases hv : v.number? with
  | some q => rw [py.toInt_number hv, py.toInt_number (hnumber.symm.trans hv)]
  | none =>
      cases v with
      | str s => rw [(Routing.eq_str h s).mp rfl]
      | null => rw [Routing.eq_null h |>.mp rfl]
      | bool | int | float => cases hv
      | seq | map =>
          cases w with
          | seq | map => rfl
          | str s => cases (Routing.eq_str h s).mpr rfl
          | null => rfl
          | bool | int | float => cases hnumber

/-- A key is present in both objects, with equal values, or in neither. -/
theorem present_of_eq (heq : Routing.eq (.map offered) (.map caller) = true)
    (hdistinct : KeysDistinct offered) (k : String) :
    (present offered k = none ∧ present caller k = none) ∨
      ∃ v w, present offered k = some v ∧ present caller k = some w ∧ Routing.eq v w = true := by
  rcases lookup_of_eq heq hdistinct k with ⟨hv, hw⟩ | ⟨v, w, hv, hw, hvw⟩
  · exact .inl ⟨by simp [present, hv], by simp [present, hw]⟩
  · by_cases hnull : v = .null
    · have hnull' := (Routing.eq_null hvw).mp hnull
      exact .inl ⟨by simp [present, hv, hnull], by simp [present, hw, hnull']⟩
    · have hnull' : w ≠ .null := fun h => hnull ((Routing.eq_null hvw).mpr h)
      refine .inr ⟨v, w, ?_, ?_, hvw⟩
      · unfold present; rw [hv]; split <;> simp_all
      · unfold present; rw [hw]; split <;> simp_all

theorem validateSource_of_eq (heq : Routing.eq (.map offered) (.map caller) = true)
    (hdistinct : KeysDistinct offered) {device : String} :
    validateSource py offered = .ok device ↔ validateSource py caller = .ok device := by
  have hdevice : offered.lookup "device" = some (.str device) ↔
      caller.lookup "device" = some (.str device) := by
    rcases lookup_of_eq heq hdistinct "device" with ⟨hv, hw⟩ | ⟨v, w, hv, hw, hvw⟩
    · rw [hv, hw]
    · rw [hv, hw, Option.some.injEq, Option.some.injEq]
      exact Routing.eq_str hvw device
  rw [validateSource_eq_ok, validateSource_eq_ok, hdevice]

/-- Both objects name a terminal server, or neither does. -/
theorem remoteOf_of_eq (heq : Routing.eq (.map offered) (.map caller) = true)
    (hdistinct : KeysDistinct offered) :
    (remoteOf offered = none ∧ remoteOf caller = none) ∨
      ∃ host port host' port', remoteOf offered = some (host, port) ∧
        remoteOf caller = some (host', port') ∧ Routing.eq port port' = true := by
  unfold remoteOf
  rcases present_of_eq heq hdistinct "host" with ⟨hv, hw⟩ | ⟨host, host', hv, hw, _⟩
  · exact .inl ⟨by simp [hv], by simp [hw]⟩
  · rcases present_of_eq heq hdistinct "port" with ⟨hp, hq⟩ | ⟨port, port', hp, hq, heqPort⟩
    · exact .inl ⟨by simp [hp], by simp [hq]⟩
    · exact .inr ⟨host, port, host', port', by simp [hv, hp], by simp [hw, hq], heqPort⟩

/-- The terminal servers the two objects name print the same host. -/
def SameHostText (py : PyText) (offered caller : List (String × Routing)) : Prop :=
  ∀ host port host' port', remoteOf offered = some (host, port) →
    remoteOf caller = some (host', port') → py.str host = py.str host'

/-- A source the caller's routing data gives is the offered one when the hosts print
the same. -/
theorem buildSource_of_eq (heq : Routing.eq (.map offered) (.map caller) = true)
    (hdistinct : KeysDistinct offered) {device : String} {source : ProxySource}
    (hcaller : buildSource py device caller = .ok source) :
    buildSource py device offered = .ok source ↔ SameHostText py offered caller := by
  rw [buildSource_eq_ok] at hcaller ⊢
  rcases remoteOf_of_eq heq hdistinct with
    ⟨hoffered, hnone⟩ | ⟨host, port, host', port', hoffered, hremote, hport⟩
  · have hbaud : py.toInt ((offered.lookup "baud").getD (.int 115200)) =
        py.toInt ((caller.lookup "baud").getD (.int 115200)) := by
      rcases lookup_of_eq heq hdistinct "baud" with ⟨hv, hw⟩ | ⟨v, w, hv, hw, hvw⟩
      · rw [hv, hw]
      · rw [hv, hw]
        exact PyText.toInt_of_eq hvw
    constructor
    · intro _ host port host' port' h
      rw [hoffered] at h
      cases h
    · intro _
      rcases hcaller with ⟨_, _, _, hsome, _⟩ | ⟨_, n, hn, hsource⟩
      · rw [hnone] at hsome
        cases hsome
      · exact .inr ⟨hoffered, n, hbaud.trans hn, hsource⟩
  · simp only [hremote, Option.some.injEq, Prod.mk.injEq, reduceCtorEq, false_and,
      or_false] at hcaller
    obtain ⟨_, _, n, ⟨rfl, rfl⟩, hn, rfl⟩ := hcaller
    constructor
    · rintro (⟨_, _, m, heq', hm, hsource⟩ | ⟨hnone, _⟩)
      · rw [hoffered, Option.some.injEq, Prod.mk.injEq] at heq'
        obtain ⟨rfl, rfl⟩ := heq'
        rw [ProxySource.remoteTerminalServer.injEq] at hsource
        intro a b a' b' ha ha'
        rw [hoffered, Option.some.injEq, Prod.mk.injEq] at ha
        rw [hremote, Option.some.injEq, Prod.mk.injEq] at ha'
        rw [← ha.1, ← ha'.1]
        exact hsource.1
      · rw [hoffered] at hnone
        cases hnone
    · intro hsame
      refine .inl ⟨host, port, n, hoffered, ?_, ?_⟩
      · rw [PyText.toInt_of_eq hport]
        exact hn
      · rw [hsame _ _ _ _ hoffered hremote]

end Compared

/-! ## The connection of an admitted request -/

/-- The open hands the caller's request to the transport, not the re-bound channel. -/
def attachOpenBackend (py : PyText) (request : OpenRequest) : Except AttachError Connection :=
  attachConnection py request.transportRef

/-- The attach refuses, or the fields it reads and nobody compared agree with the
channel of the snapshot. -/
def AgreesWith (py : PyText) (ref channel : TransportRef) : Prop :=
  (∃ x, attachConnection py ref = .ok x) →
    (ref.provider = "qemu-gdbstub" →
      hostOf py ref.opts = hostOf py channel.targetRef ∧
        portOf py ref.opts = portOf py channel.targetRef) ∧
    (ref.provider = "serial-local" → Demuxed ref →
      supportsUartBreak ref.opts = supportsUartBreak channel.opts ∧
        SameHostText py channel.targetRef ref.targetRef)

section Attached

variable {py : PyText} {ref channel : TransportRef}

theorem gdbstub_described_iff (hprovider : ref.provider = "qemu-gdbstub")
    (hsame : SameChannel channel ref) :
    (∀ x, attachConnection py ref = .ok x → describedConnection py channel = .ok x) ↔
      AgreesWith py ref channel := by
  have hserial : ref.provider ≠ "serial-local" := by rw [hprovider]; decide
  rw [AgreesWith, attachConnection, describedConnection, if_pos hprovider,
    if_pos (hsame.1.trans hprovider)]
  constructor
  · rintro hall ⟨x, hx⟩
    have hdescribed := hall x hx
    obtain ⟨port, hport, _, _, rfl⟩ := gdbstubAddress_eq_ok.mp hx
    obtain ⟨port', hport', _, _, heq⟩ := gdbstubAddress_eq_ok.mp hdescribed
    rw [Connection.gdbstub.injEq] at heq
    obtain ⟨hhost, rfl⟩ := heq
    exact ⟨fun _ => ⟨hhost.symm, hport.trans hport'.symm⟩, fun h => absurd h hserial⟩
  · intro hagrees x hx
    obtain ⟨hhost, hport⟩ := (hagrees ⟨x, hx⟩).1 hprovider
    rw [gdbstubAddress_eq_ok] at hx ⊢
    rwa [← hhost, ← hport]

theorem serial_described_iff (hprovider : ref.provider = "serial-local")
    (hsame : SameChannel channel ref) (hmatches : MatchesOffered channel ref)
    (hdistinct : KeysDistinct channel.targetRef) :
    (∀ x, attachConnection py ref = .ok x → describedConnection py channel = .ok x) ↔
      AgreesWith py ref channel := by
  have hgdbstub : ref.provider ≠ "qemu-gdbstub" := by rw [hprovider]; decide
  have hchannel : channel.provider = "serial-local" := hsame.1.trans hprovider
  have hrole : Demuxed channel ↔ Demuxed ref := by rw [Demuxed, Demuxed, hmatches.2.1]
  have hattach : attachConnection py ref = serialConnection py ref := by
    rw [attachConnection, if_neg hgdbstub, if_pos hprovider]
  have hdescribed : describedConnection py channel = serialConnection py channel := by
    rw [describedConnection, attachConnection, if_neg (hchannel ▸ by decide),
      if_neg (hchannel ▸ by decide), if_pos hchannel]
  rw [AgreesWith, hattach, hdescribed]
  constructor
  · rintro hall ⟨x, hx⟩
    refine ⟨fun h => absurd h hgdbstub, fun _ hdemuxed => ?_⟩
    have hoffered := hall x hx
    obtain ⟨device, _, ⟨_, source, hsource, rfl⟩ | ⟨hconsole, _⟩⟩ := serialConnection_eq_ok.mp hx
    · obtain ⟨device', _, ⟨_, source', hsource', heq⟩ | ⟨hconsole, _⟩⟩ :=
        serialConnection_eq_ok.mp hoffered
      · rw [Connection.demux.injEq] at heq
        obtain ⟨rfl, rfl, hbreak⟩ := heq
        exact ⟨hbreak.symm, (buildSource_of_eq hmatches.1 hdistinct hsource).mp hsource'⟩
      · exact absurd (hrole.mpr hdemuxed) hconsole
    · exact absurd hdemuxed hconsole
  · intro hagrees x hx
    have hfields := (hagrees ⟨x, hx⟩).2 hprovider
    rw [serialConnection_eq_ok] at hx ⊢
    obtain ⟨device, hdevice, ⟨hdemuxed, source, hsource, rfl⟩ | ⟨hconsole, rfl⟩⟩ := hx
    · obtain ⟨hbreak, hhost⟩ := hfields hdemuxed
      exact ⟨device, (validateSource_of_eq hmatches.1 hdistinct).mpr hdevice, .inl
        ⟨hrole.mpr hdemuxed, source, (buildSource_of_eq hmatches.1 hdistinct hsource).mpr hhost,
          by rw [hbreak]⟩⟩
    · exact ⟨device, (validateSource_of_eq hmatches.1 hdistinct).mpr hdevice,
        .inr ⟨fun h => hconsole (hrole.mp h), rfl⟩⟩

/-- An attach connects to the endpoint of the offered channel exactly when the fields
nobody compared agree. -/
theorem described_iff {snapshot : TargetSnapshot} (hrebind : rebind ref snapshot = .ok channel)
    (hdistinct : KeysDistinct channel.targetRef) :
    (∀ x, attachConnection py ref = .ok x → describedConnection py channel = .ok x) ↔
      AgreesWith py ref channel := by
  obtain ⟨hfind, hmatches⟩ := rebind_eq_ok.mp hrebind
  have hsame : SameChannel channel ref := by simpa using List.find?_some hfind
  by_cases hgdbstub : ref.provider = "qemu-gdbstub"
  · exact gdbstub_described_iff hgdbstub hsame
  by_cases hserial : ref.provider = "serial-local"
  · exact serial_described_iff hserial hsame hmatches hdistinct
  have hrefused : ∀ x, attachConnection py ref ≠ .ok x := by
    intro x hx
    rw [attachConnection, if_neg hgdbstub, if_neg hserial] at hx
    cases hx
  constructor
  · rintro _ ⟨x, hx⟩
    exact absurd hx (hrefused x)
  · intro _ x hx
    exact absurd hx (hrefused x)

end Attached

/-- An admitted request was re-bound to the channel its handle carries. -/
theorem admitted_rebind {s s' : AdmissionService} {k : TargetKey} {request : OpenRequest}
    {now : Instant} {h : AdmissionHandle} {channel : TransportRef}
    (hgranted : s.admitOpen k request now = .ok (h, s') ∨
      s.admitRecovery k request now = .ok (h, s'))
    (hchannel : h.channel = some channel) :
    ∃ snapshot, s.store k = some snapshot ∧ rebind request.transportRef snapshot = .ok channel := by
  have hrebound : ∃ snapshot channel, s.store k = some snapshot ∧
      rebind request.transportRef snapshot = .ok channel ∧ h.channel = some channel ∧
      h.platform = snapshot.platform := by
    cases hgranted with
    | inl hopen => exact admitOpen_channel hopen
    | inr hrecovery => exact admitRecovery_channel hrecovery
  obtain ⟨snapshot, offered, hsnapshot, hrebind, hoffered, _⟩ := hrebound
  obtain rfl : channel = offered := Option.some.inj (hchannel.symm.trans hoffered)
  exact ⟨snapshot, hsnapshot, hrebind⟩

/-- Of an admitted request, the open connects to the endpoint the snapshot describes
exactly when what the attach reads and nobody compared agrees with it.  Two requests
admitted for one channel that both agree connect to the same endpoint. -/
theorem attached_endpoint (py : PyText) (s s' : AdmissionService) (k : TargetKey)
    (request : OpenRequest) (now : Instant) (h : AdmissionHandle) (channel : TransportRef)
    (hgranted : s.admitOpen k request now = .ok (h, s') ∨
      s.admitRecovery k request now = .ok (h, s'))
    (hchannel : h.channel = some channel) (hdistinct : KeysDistinct channel.targetRef) :
    ((∀ x, attachOpenBackend py request = .ok x → describedConnection py channel = .ok x) ↔
      AgreesWith py request.transportRef channel) ∧
    ∀ (s₁ s₂ : AdmissionService) (other : OpenRequest) (now' : Instant) (h' : AdmissionHandle),
      s₁.admitOpen k other now' = .ok (h', s₂) ∨ s₁.admitRecovery k other now' = .ok (h', s₂) →
      h'.channel = some channel →
      AgreesWith py request.transportRef channel → AgreesWith py other.transportRef channel →
      ∀ x y, attachOpenBackend py request = .ok x → attachOpenBackend py other = .ok y → x = y := by
  obtain ⟨_, _, hrebind⟩ := admitted_rebind hgranted hchannel
  refine ⟨described_iff hrebind hdistinct, ?_⟩
  intro s₁ s₂ other now' h' hgranted' hchannel' hagrees hagrees' x y hx hy
  obtain ⟨_, _, hrebind'⟩ := admitted_rebind hgranted' hchannel'
  have hdescribed := (described_iff hrebind hdistinct).mpr hagrees x hx
  have hdescribed' := (described_iff hrebind' hdistinct).mpr hagrees' y hy
  exact Except.ok.inj (hdescribed.symm.trans hdescribed')

section Redirected

/-- `str` and `int` on the texts and numbers of a loopback endpoint. -/
def PyText.plain : PyText where
  str := fun
    | .str s => s
    | .int n => toString n
    | _ => ""
  repr := fun
    | .str s => "'" ++ s ++ "'"
    | .int n => toString n
    | _ => ""
  int := String.toInt?
  isLoopback := fun host => host = "127.0.0.1"
  str_text := fun _ => rfl

/-- A server whose target was booted once. -/
def bootedService : AdmissionService :=
  (AdmissionService.fresh defaultMinLeaseTtlSeconds 0).after
    (.publishSnapshot (localTarget "run") (bootSnapshot 1 (some gdbstubEndpoint) ⟨none⟩))

theorem booted_store : bootedService.store (localTarget "run") =
    some (bootSnapshot 1 (some (GdbstubEndpoint.mk "127.0.0.1" 1234).asDict) ⟨none⟩) := rfl

/-- The handle a request of a booted target is admitted with. -/
def bootedHandle : AdmissionHandle :=
  bootedService.newHandle (localTarget "run") .transportOpen (some (gdbstubChannel gdbstubEndpoint))
    (bootSnapshot 1 (some gdbstubEndpoint) ⟨none⟩) false

theorem admit_booted (opts : List (String × Routing)) :
    bootedService.admitOpen (localTarget "run")
      (debugRequestWithOpts "run" gdbstubEndpoint opts 1 false) 0 =
      .ok (bootedHandle, bootedService.registered bootedHandle) :=
  debugOpen_admitted (s := bootedService) booted_store (by decide) (by decide) opts 0

/-- The debug session's own request attaches to the published endpoint. -/
theorem attached_endpoint_debug :
    let request := debugRequestWithOpts "run" gdbstubEndpoint gdbstubEndpoint 1 false
    ∀ x, attachOpenBackend .plain request = .ok x →
      describedConnection .plain (gdbstubChannel gdbstubEndpoint) = .ok x :=
  (attached_endpoint .plain bootedService _ (localTarget "run")
    (debugRequestWithOpts "run" gdbstubEndpoint gdbstubEndpoint 1 false) 0
    bootedHandle (gdbstubChannel gdbstubEndpoint) (.inl (admit_booted _)) rfl
    (by decide)).1.mpr fun _ => ⟨fun _ => ⟨rfl, rfl⟩, fun h => absurd h (by decide)⟩

/-- Options of the caller redirect the attach. -/
theorem attached_endpoint_redirected :
    ¬ ∀ (py : PyText) (s s' : AdmissionService) (k : TargetKey) (request : OpenRequest)
      (now : Instant) (h : AdmissionHandle) (channel : TransportRef),
      (s.admitOpen k request now = .ok (h, s') ∨ s.admitRecovery k request now = .ok (h, s')) →
      h.channel = some channel → KeysDistinct channel.targetRef →
      ∀ x, attachOpenBackend py request = .ok x → describedConnection py channel = .ok x := by
  intro hall
  have hdescribed := hall .plain bootedService _ (localTarget "run")
    (debugRequestWithOpts "run" gdbstubEndpoint [("host", .str "127.0.0.1"), ("port", .int 9999)] 1
      false) 0 bootedHandle (gdbstubChannel gdbstubEndpoint) (.inl (admit_booted _)) rfl (by decide)
    (.gdbstub "127.0.0.1" 9999) rfl
  have hother : describedConnection .plain (gdbstubChannel gdbstubEndpoint) =
      .ok (.gdbstub "127.0.0.1" 1234) := rfl
  simp [hother] at hdescribed

end Redirected

end Kdive

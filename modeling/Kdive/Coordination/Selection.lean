import Kdive.Lib.Checked
import Kdive.Seams.TransportState

/-!
# Channel selection and endpoint safety

`selectStopCapableChannel` picks the first channel that offers the required
capabilities and has a break plan.  The plan is the choice of a break policy,
and `referencePlan` is the one the program ships.

`refuseUnsafeExposure` and `assertLoopbackEndpoint` are the two endpoint checks
an open makes, the first before it acquires anything and the second on what the
backend bound.
-/

namespace Kdive

open Checked

/-! ## Break policy -/

/-- Why no break plan exists. -/
inductive BreakPlanCode where
  | noBreakPlan
  | breakDisproved
deriving DecidableEq, Repr

/-- A rejected break plan. -/
structure BreakPlanError where
  /-- The message. -/
  message : String
  /-- The reason. -/
  code : BreakPlanCode
deriving DecidableEq, Repr

/-- A break policy: a plan for a channel, given the methods disproved for it. -/
abbrev BreakPolicy :=
  TransportRef → PlatformMetadata → List BreakMethod → Except BreakPlanError BreakPlan

/-- Why a method was chosen. -/
def breakRationale : BreakMethod → String
  | .gdbstubNative => "rsp channel: gdb interrupts directly"
  | .uartBreak => "dedicated debug line with UART break"
  | .agentProxyBreak => "shared console with UART break via agent-proxy"
  | .sysrqG => "sysrq-g over ssh"

/-- The methods whose topology predicate holds, in order of preference. -/
def candidates (channel : TransportRef) (platform : PlatformMetadata) : List BreakMethod :=
  let sharedConsoleUartBreak :=
    channel.lineRole = .sharedConsole ∧ "supports_uart_break" ∈ channel.caps
  let preferAgentProxy := sharedConsoleUartBreak ∧ platform.consoleKind = .uart
  (if channel.lineRole = .rsp ∧ "provides_rsp" ∈ channel.caps then [.gdbstubNative] else []) ++
  (if channel.lineRole = .dedicatedDebug ∧ "supports_uart_break" ∈ channel.caps then [.uartBreak]
    else []) ++
  (if preferAgentProxy then [.agentProxyBreak] else []) ++
  (if platform.sshReachable then [.sysrqG] else []) ++
  (if sharedConsoleUartBreak ∧ ¬ preferAgentProxy then [.agentProxyBreak] else [])

/-- `ReferenceBreakPolicy.plan`. -/
def referencePlan : BreakPolicy := fun channel platform disproved =>
  match candidates channel platform with
  | [] => .error
      { message := "no break method's topology predicate holds for the selected channel"
        code := .noBreakPlan }
  | all =>
      match all.filter (· ∉ disproved) with
      | [] => .error
          { message := "every topology-admissible break method was positively disproved"
            code := .breakDisproved }
      | method :: _ => .ok ⟨method, channel.channelId, breakRationale method⟩

/-- A planned method fits the channel and was not disproved. -/
theorem referencePlan_eq_ok {channel : TransportRef} {platform : PlatformMetadata}
    {disproved : List BreakMethod} {plan : BreakPlan}
    (h : referencePlan channel platform disproved = .ok plan) :
    plan.method ∈ candidates channel platform ∧ plan.method ∉ disproved ∧
      plan.channelId = channel.channelId := by
  simp only [referencePlan] at h
  split at h
  · cases h
  · split at h
    · cases h
    · rename_i method rest heq
      cases h
      have hm : method ∈ (candidates channel platform).filter (· ∉ disproved) := by
        rw [heq]
        exact List.mem_cons_self
      obtain ⟨hcandidate, hadmissible⟩ := List.mem_filter.mp hm
      exact ⟨hcandidate, of_decide_eq_true hadmissible, rfl⟩

/-- The native method is for an rsp line whose channel provides rsp. -/
theorem native_mem_candidates {channel : TransportRef} {platform : PlatformMetadata} :
    .gdbstubNative ∈ candidates channel platform ↔
      channel.lineRole = .rsp ∧ "provides_rsp" ∈ channel.caps := by
  simp [candidates]

/-! ## Selection -/

/-- Why no channel was selected. -/
inductive SelectionCode where
  | noCapableChannel
  | noBreakPlan
  | breakDisproved
deriving DecidableEq, Repr

/-- No channel could be selected. -/
structure SelectionError where
  /-- The message. -/
  message : String
  /-- The reason. -/
  code : SelectionCode
deriving DecidableEq, Repr

/-- What a disproof speaks of: one channel, or the whole target for the one
method that goes over ssh. -/
inductive BreakDisproof where
  | lineBound (targetKey : TargetKey) (method : BreakMethod) (bound : method ≠ .sysrqG)
      (provider channelId : String)
  | targetWide (targetKey : TargetKey)
deriving DecidableEq, Repr

/-- The method a disproof rules out. -/
def BreakDisproof.method : BreakDisproof → BreakMethod
  | .lineBound _ method _ _ _ => method
  | .targetWide _ => .sysrqG

/-- A disproof rules its method out on a channel. -/
def BreakDisproof.AppliesTo (d : BreakDisproof) (targetKey : TargetKey) (channel : TransportRef) :
    Prop :=
  match d with
  | .lineBound k _ _ provider channelId =>
      k = targetKey ∧ provider = channel.provider ∧ channelId = channel.channelId
  | .targetWide k => k = targetKey

instance (d : BreakDisproof) (targetKey : TargetKey) (channel : TransportRef) :
    Decidable (d.AppliesTo targetKey channel) := by
  cases d <;> unfold BreakDisproof.AppliesTo <;> infer_instance

/-- A channel and how to stop it. -/
structure Selection where
  /-- The channel. -/
  channel : TransportRef
  /-- The plan. -/
  breakPlan : BreakPlan
deriving Repr

/-- Try each capable channel in turn. -/
def selectFrom (targetKey : TargetKey) (platform : PlatformMetadata) (breakPolicy : BreakPolicy)
    (disproved : List BreakDisproof) (sawDisproved : Bool) :
    List TransportRef → Except SelectionError Selection
  | [] => .error
      { message := "no capable channel has an executable break plan"
        code := if sawDisproved then .breakDisproved else .noBreakPlan }
  | channel :: rest =>
      let channelDisproved :=
        (disproved.filter (·.AppliesTo targetKey channel)).map BreakDisproof.method
      match breakPolicy channel platform channelDisproved with
      | .ok plan => .ok ⟨channel, plan⟩
      | .error e =>
          selectFrom targetKey platform breakPolicy disproved
            (sawDisproved || e.code = .breakDisproved) rest

/-- The first channel with the required capabilities and a break plan. -/
def selectStopCapableChannel (targetKey : TargetKey) (transports : List TransportRef)
    (requiredCaps : List String) (platform : PlatformMetadata) (breakPolicy : BreakPolicy)
    (disproved : List BreakDisproof) : Except SelectionError Selection := do
  let capable := transports.filter fun channel => ∀ cap ∈ requiredCaps, cap ∈ channel.caps
  refuse (capable = [])
    { message := "no channel satisfies the required caps"
      code := .noCapableChannel }
  selectFrom targetKey platform breakPolicy disproved false capable

theorem selectFrom_eq_ok {targetKey : TargetKey} {platform : PlatformMetadata}
    {breakPolicy : BreakPolicy} {disproved : List BreakDisproof} {selection : Selection} :
    ∀ {channels : List TransportRef} {sawDisproved : Bool},
      selectFrom targetKey platform breakPolicy disproved sawDisproved channels = .ok selection →
        selection.channel ∈ channels ∧
          ∃ methods, breakPolicy selection.channel platform methods = .ok selection.breakPlan
  | [], _, h => by cases h
  | channel :: rest, _, h => by
      simp only [selectFrom] at h
      split at h
      · rename_i plan hplan
        cases h
        exact ⟨List.mem_cons_self, _, hplan⟩
      · obtain ⟨hmem, hplan⟩ := selectFrom_eq_ok h
        exact ⟨List.mem_cons_of_mem _ hmem, hplan⟩

/-- A selected channel offers the required capabilities and was planned for. -/
theorem selectStopCapableChannel_eq_ok {targetKey : TargetKey} {transports : List TransportRef}
    {requiredCaps : List String} {platform : PlatformMetadata} {breakPolicy : BreakPolicy}
    {disproved : List BreakDisproof} {selection : Selection}
    (h : selectStopCapableChannel targetKey transports requiredCaps platform breakPolicy disproved
      = .ok selection) :
    selection.channel ∈ transports ∧ (∀ cap ∈ requiredCaps, cap ∈ selection.channel.caps) ∧
      ∃ methods, breakPolicy selection.channel platform methods = .ok selection.breakPlan := by
  simp only [selectStopCapableChannel, bind_eq_ok] at h
  obtain ⟨_, _, h⟩ := h
  obtain ⟨hmem, hplan⟩ := selectFrom_eq_ok h
  obtain ⟨hmem, hcaps⟩ := List.mem_filter.mp hmem
  exact ⟨hmem, of_decide_eq_true hcaps, hplan⟩

/-! ## Endpoint safety -/

/-- An endpoint the program will not expose. -/
structure EndpointSafetyError where
  /-- The message. -/
  message : String
deriving DecidableEq, Repr

/-- What a provider declares about itself. -/
structure TransportCapability where
  /-- The provider. -/
  providerName : String
  /-- It owns a console. -/
  providesConsole : Bool
  /-- How it exposes its endpoint. -/
  endpointExposure : EndpointExposure
deriving DecidableEq, Repr

/-- The provider table: what each transport declares. -/
abbrev Transports := String → Option TransportCapability

/-- The operations that hand out an endpoint. -/
def endpointReturningOps : List String := ["transport.open", "transport.inject_break"]

/-- A brokered provider may not hand out a raw endpoint. -/
def refuseUnsafeExposure (capability : TransportCapability) (op : String) :
    Except EndpointSafetyError Unit :=
  refuse (op ∈ endpointReturningOps ∧ capability.endpointExposure = .brokeredRequired)
    { message := s!"transport '{capability.providerName}' is brokered_required; a raw endpoint open is refused until the #08 broker exists" }

/-- What the backend bound must be loopback.  `isLoopback` is the address
library's judgement of a host. -/
def assertLoopbackEndpoint (isLoopback : String → Bool) : Endpoint → Except EndpointSafetyError Unit
  | .tcp host _ =>
      refuse (isLoopback host = false)
        { message := s!"bound RSP endpoint is not loopback: {host}" }
  | .unix .. => .ok ()

end Kdive

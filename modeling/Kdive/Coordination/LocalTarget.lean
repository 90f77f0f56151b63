import Kdive.Coordination.Transaction

/-!
# The local target

A booted run is a target of the local provisioner.  Boot publishes a `READY`
snapshot of it with the gdbstub as its channel, and a debug session opens that
channel.  The environments below are the ones in which nothing outside fails.
-/

namespace Kdive

/-- The channel a gdbstub is reached over. -/
def gdbstubChannel (endpoint : List (String × Routing)) : TransportRef where
  provider := "qemu-gdbstub"
  channelId := "rsp0"
  lineRole := .rsp
  caps := ["rsp"]
  targetRef := endpoint
  secretRefs := []

/-- The platform facts boot publishes. -/
def bootPlatform (sshReachable : Bool) : PlatformMetadata where
  consoleKind := .uart
  consoleCount := 1
  consoleCount_pos := le_rfl
  dedicatedDebugLine := false
  sshReachable := sshReachable
  breakHints := [.gdbstubNative]

/-- The snapshot boot publishes. -/
def bootReadySnapshot (generation : Int) (endpoint : List (String × Routing))
    (sshReachable : Bool) : TargetSnapshot where
  generation := generation
  transports := [gdbstubChannel endpoint]
  platform := bootPlatform sshReachable
  state := .ready
  lease := none

/-- The request of a debug session, for a published generation and platform. -/
def debugOpenRequest (runId : String) (endpoint : List (String × Routing)) (generation : Nat)
    (platform : PlatformMetadata) : OpenRequest where
  targetKey := localTarget runId
  generation := generation
  -- the transport reads host and port from `opts`
  transportRef := { gdbstubChannel endpoint with opts := endpoint }
  requiredCaps := ["rsp"]
  platform := platform
  lease := none
  minLeaseTtl := none

/-- The gdbstub transport. -/
def qemuGdbstub : TransportCapability where
  providerName := "qemu-gdbstub"
  providesConsole := false
  endpointExposure := .loopbackLocal

/-- A provider table with the gdbstub transport. -/
def gdbstubTransports : Transports := fun provider =>
  if provider = "qemu-gdbstub" then some qemuGdbstub else none

/-- The endpoint a local gdbstub listens on. -/
def gdbstubEndpoint : List (String × Routing) := [("host", .str "127.0.0.1"), ("port", .int 1234)]

/-! ## When nothing fails -/

/-- An open. -/
def OpenEnv.calm : OpenEnv where
  transports := gdbstubTransports
  breakPolicy := referencePlan
  isLoopback := fun host => host = "127.0.0.1"
  dispatcher := true
  now := 0
  crashAfter := []
  secrets := none
  openingWrite := none
  partials := []
  attach := .ok ⟨none, some (.tcp "127.0.0.1" 1234), none⟩
  readyWrite := none
  subscribe := none
  clearDurable := none
  rollbackUnlink := none

/-- A teardown. -/
def CloseEnv.calm : CloseEnv where
  transports := gdbstubTransports
  dispatcher := true
  closingWrite := none
  transportClose := none
  tombstoneWrite := none
  unlink := none

/-- An emit. -/
def EmitEnv.calm : EmitEnv where
  transports := gdbstubTransports
  alreadyOverdue := []
  overdue := []
  invalidateUnlink := fun _ => none
  forceDropUnlink := fun _ => none

end Kdive

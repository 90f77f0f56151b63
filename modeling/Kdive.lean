import Kdive.Lib.Runs
import Kdive.Coordination.Admission
import Kdive.Coordination.AdmissionChange
import Kdive.Coordination.AdmissionTable
import Kdive.Coordination.ExecutionEpoch
import Kdive.Lib.Interleaving
import Kdive.Coordination.Lease
import Kdive.Coordination.Registry
import Kdive.Coordination.Selection
import Kdive.Coordination.World
import Kdive.Coordination.Transaction
import Kdive.Coordination.ExecProbe
import Kdive.Coordination.Threads
import Kdive.Coordination.GenerationFence
import Kdive.Coordination.WorldChange
import Kdive.Coordination.BindingDisposal
import Kdive.Coordination.RecoveryGate
import Kdive.Coordination.SingleOwner
import Kdive.Target.Boot
import Kdive.Target.BootPublication
import Kdive.Target.DebugOpen
import Kdive.Seams.RoutingEquality
import Kdive.Transport.AttachedEndpoint
import Kdive.Coordination.RegistryFiles
import Kdive.Coordination.Reconcile
import Kdive.Coordination.ReconcileConvergence
import Kdive.Coordination.RecoveryMarker
import Kdive.Coordination.HaltedClose
import Kdive.Coordination.RecordOwners
import Kdive.Coordination.BackendRecord
import Kdive.Transport.SerialLocal
import Kdive.Coordination.UnreapedBackend
import Kdive.Transport.ResourceLedger
import Kdive.Lib.Replacement
import Kdive.Safety.Redaction
import Kdive.Safety.RedactText
import Kdive.Safety.RedactValue
import Kdive.Lib.Utf8
import Kdive.Safety.Snippets
import Kdive.Lib.CommandLine
import Kdive.GdbMi.CommandParse
import Kdive.GdbMi.CommandInjection
import Kdive.GdbMi.Link
import Kdive.GdbMi.Engine
import Kdive.GdbMi.Execution
import Kdive.GdbMi.Pairing
import Kdive.GdbMi.Resume
import Kdive.Target.SshWork
import Kdive.Target.SshDisposal
import Kdive.Artifacts.Manifest
import Kdive.Artifacts.Store
import Kdive.Lib.CriticalSection
import Kdive.Artifacts.Linearization
import Kdive.Artifacts.StoreRuns
import Kdive.Target.StepHandlers
import Kdive.Target.CrashedStep
import Kdive.Target.StepRecovery
import Kdive.Lib.Dict
import Kdive.Lib.History
import Kdive.Seams.Lifecycle
import Kdive.Seams.Dispatch
import Kdive.Seams.SessionGuard
import Kdive.Lib.Lines
import Kdive.Postmortem.CrashScript
import Kdive.Postmortem.CrashOutputs
import Kdive.Lib.PosixPath
import Kdive.Postmortem.DumpListing
import Kdive.Postmortem.DumpFetch
import Kdive.Target.BootRuns
import Kdive.Introspect.WrapperText
import Kdive.Lib.Base64
import Kdive.Introspect.Wrapper
import Kdive.Seams.Watchdog
import Kdive.Lib.PythonJson
import Kdive.Introspect.Finalize
import Kdive.Transport.RspProbe
import Kdive.Coordination.ChannelChoice
import Kdive.Target.ConsoleStream
import Kdive.Lib.ByteOrder
import Kdive.Symbols.BuildId
import Kdive.Symbols.ElfWriting
import Kdive.Symbols.BuildIdFailures
import Kdive.Symbols.OnTarget
import Kdive.Lib.KeyedMerge
import Kdive.Target.KernelArgs
import Kdive.Lib.IsoTime
import Kdive.Lib.Rounding
import Kdive.Postmortem.DumpOrder
import Kdive.Artifacts.Bundle
import Kdive.Artifacts.HandlerArtifacts
import Kdive.Artifacts.Collection
import Kdive.Transport.SerialRelay
import Kdive.Lib.Fields
import Kdive.Seams.ProcessIdentity
import Kdive.Lib.PythonInt
import Kdive.GdbMi.Readers
import Kdive.Debug.BreakpointLedger
import Kdive.Seams.RoutingData
import Kdive.Coordination.ChannelJson
import Kdive.Safety.LogFilter
import Kdive.Lib.Pattern
import Kdive.Postmortem.CrashParsers
import Kdive.Target.TestRun
import Kdive.Target.TestCancellation
import Kdive.Lib.Transcript
import Kdive.Transport.AgentProxy
import Kdive.Transport.ProxyCustody
import Kdive.Transport.ProxyLife
import Kdive.Seams.Secrets
import Kdive.Coordination.RegistryDisk
import Kdive.Coordination.RegistryRecord
import Kdive.Coordination.RegistryRuns

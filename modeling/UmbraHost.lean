import UmbraHost.DisplayHelper.RecoveryLease
import UmbraHost.DisplayHelper.ReplyRuns
import UmbraHost.DisplayHelper.RepairBound
import UmbraHost.Stream.PingRegistrations
import UmbraHost.Stream.StartStop
import UmbraHost.Stream.SequenceNumbers
import UmbraHost.Stream.FailedStart
import UmbraHost.Rtsp.StreamParameters
import UmbraHost.Rtsp.Nonces
import UmbraHost.Rtsp.TextBounds
import UmbraHost.HttpAuth.TokenLifetimes
import UmbraHost.HttpAuth.SavedTokens
import UmbraHost.DisplayOperations.MutationAccounting
import UmbraHost.DisplayOperations.LastBaseline
import UmbraHost.DisplayOperations.UnreportedGolden
import UmbraHost.Input.DeviceSequences
import UmbraHost.Input.QueueTask
import UmbraHost.Input.Reset
import UmbraHost.Input.LeftRelease
import UmbraHost.Input.GamepadSlots
import UmbraHost.Amf.RuntimeGate
import UmbraHost.Amf.WorkerHandoff
import UmbraHost.Amf.CleanAnchors
import UmbraHost.Amf.SurfaceOwnership
import UmbraHost.Amf.OutputPump
import UmbraHost.Nvenc.ReferenceFrames
import UmbraHost.ThreadSafe.SharedObject
import UmbraHost.DisplayOperations.SnapshotRoundTrip
import UmbraHost.ClientIdentity.Attribution
import UmbraHost.ClientIdentity.CertChain
import UmbraHost.Broadcast.Notification
import UmbraHost.ClientStore.NothingLost
import UmbraHost.Pairing.Authorization
import UmbraHost.Pairing.FinalAnswer
import UmbraHost.SharedRuntime.Idle
import UmbraHost.Pipes.HelperFrames
import UmbraHost.Pipes.Handshake
import UmbraHost.Pipes.ReliableStream
import UmbraHost.Pipes.Overlapped
import UmbraHost.DisplayOperations.SaveFilter
import UmbraHost.DisplayOperations.ReadableSnapshots
import UmbraHost.Encode.LossReports
import UmbraHost.Playnite.Settled
import UmbraHost.Playnite.Recent
import UmbraHost.Config.CommandLine
import UmbraHost.Config.OutputOverrides
import UmbraHost.Config.CheckedOptions
import UmbraHost.Config.RenderedFiles
import UmbraHost.DisplayHelper.Heartbeat
import UmbraHost.DisplayHelper.RestorePacing
import UmbraHost.DisplayOperations.SnapshotWrites
import UmbraHost.HttpAuth.Cookies
import UmbraHost.HttpAuth.Restarts
import UmbraHost.History.Completions
import UmbraHost.History.InterruptedMigration
import UmbraHost.StateFiles.Migration
import UmbraHost.DisplayHelper.Baseline
import UmbraHost.DisplayHelper.RestoreExit
import UmbraHost.Util.FromChars
import UmbraHost.Util.HexCodec
import UmbraHost.Util.Precedence
import UmbraHost.Util.TaskPool
import UmbraHost.Nvprefs.WriteAhead
import UmbraHost.Process.UndoneCommands
import UmbraHost.VirtualDisplay.WorkerOwnership

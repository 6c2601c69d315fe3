import WinDV.Library.Transition
import WinDV.Library.BoundedFifo
import WinDV.Library.Storage
import WinDV.Library.Segmentation
import WinDV.Library.WakeUp
import WinDV.Library.GrowingBuffer
import WinDV.Library.Separated
import WinDV.Library.Dialogue
import WinDV.Library.RecentlyUsed
import WinDV.Library.Cooperative
import WinDV.Library.Linear
import WinDV.Core.FrameQueue
import WinDV.Core.FrameQueueRefinement
import WinDV.Core.WideString
import WinDV.Core.CaptureNaming
import WinDV.Core.CaptureNamingFresh
import WinDV.Core.CaptureGuards
import WinDV.Core.DVTimecode
import WinDV.Core.FrameQueueHold
import WinDV.Core.FrameQueueWait
import WinDV.Core.FrameQueueWakeUp
import WinDV.Core.CommandLine
import WinDV.Core.CaptureNumbering
import WinDV.Core.CaptureApart
import WinDV.Core.TimeFormat
import WinDV.Core.Duration
import WinDV.Core.DurationRange
import WinDV.Core.RecordingTime
import WinDV.Core.RecordingDate
import WinDV.Core.TimeFormatGrammar
import WinDV.Core.TransportLogic
import WinDV.Engine.AviWriter
import WinDV.Engine.CaptureLoop
import WinDV.Engine.Controller
import WinDV.Engine.System
import WinDV.Engine.CaptureMoves
import WinDV.Engine.RecordMoves
import WinDV.Engine.SystemMoves
import WinDV.Engine.Effects
import WinDV.Engine.Pipeline
import WinDV.Engine.StopReason
import WinDV.Engine.FailedBuild
import WinDV.Engine.Alive
import WinDV.Engine.EndedFile
import WinDV.Engine.Sessions
import WinDV.Engine.SelfStop
import WinDV.Engine.DeadPipeline
import WinDV.Engine.FrameInHand
import WinDV.Engine.SceneSplit
import WinDV.Engine.SplitFiles
import WinDV.Engine.SplitRuns
import WinDV.Engine.Playback
import WinDV.Engine.PlaybackRuns
import WinDV.Engine.AviJoiner
import WinDV.Engine.JoinerMoves
import WinDV.Engine.JoinedStream
import WinDV.Engine.Playlist
import WinDV.Engine.WriterNames
import WinDV.Engine.WriterFolder
import WinDV.Engine.RecordCounts
import WinDV.Engine.InitialStatus
import WinDV.Engine.LengthSplit
import WinDV.Engine.TimedCapture
import WinDV.Engine.FreshPipeline
import WinDV.Engine.TimedRuns
import WinDV.Engine.Monitor
import WinDV.Engine.Deck
import WinDV.Engine.DeckFollows
import WinDV.Engine.DeckSafety
import WinDV.Engine.CapturedFrames
import WinDV.Native.CopyOut
import WinDV.Native.ErrorText
import WinDV.Native.EngineThread
import WinDV.Native.AcceptedWork
import WinDV.Native.RecordFiles
import WinDV.Native.CaptureDuration
import WinDV.Native.EngineWake
import WinDV.Native.EngineWakeInvariant
import WinDV.Native.EngineServes
import WinDV.Native.CommandLineUsage
import WinDV.Native.EngineApi
import WinDV.Native.EngineLinked
import WinDV.Native.EngineLinearized
import WinDV.Ui.Timecode
import WinDV.Ui.UpdateChecker
import WinDV.Ui.UpdateInstaller
import WinDV.Ui.ReleaseQuery
import WinDV.Ui.SettingsView
import WinDV.Ui.MainViewModel
import WinDV.Ui.ViewModelTurns
import WinDV.Ui.InstallUpdate
import WinDV.Ui.DeviceList
import WinDV.Ui.UpdateNotice

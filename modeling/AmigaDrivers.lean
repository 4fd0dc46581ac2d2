import AmigaDrivers.Common.ByteUtil
import AmigaDrivers.Lms.FrameReceiver
import AmigaDrivers.Lms.Resync
import AmigaDrivers.Lms.FrameReceiverChunking
import AmigaDrivers.Lms.FrameReceiverAccounts
import AmigaDrivers.Lms.FrameReceiverStreams
import AmigaDrivers.Lms.FrameReceiverBuffer
import AmigaDrivers.Foundation.ByteCursor
import AmigaDrivers.Foundation.ByteGrammar
import AmigaDrivers.Lms.ScanDataParser
import AmigaDrivers.Lms.ScanDataGrammar
import AmigaDrivers.Lms.ScanDataEncoding
import AmigaDrivers.Lms.TimestampAgreement
import AmigaDrivers.Foundation.StepSystem
import AmigaDrivers.Foundation.History
import AmigaDrivers.Common.RotatingFileWriter
import AmigaDrivers.Asterx.SbfWriteQueue
import AmigaDrivers.Asterx.SbfWriteQueueSteps
import AmigaDrivers.Asterx.SbfWriteQueueContract
import AmigaDrivers.Asterx.SbfWriteQueueCalls
import AmigaDrivers.Asterx.Session
import AmigaDrivers.Asterx.SessionLedger
import AmigaDrivers.Asterx.SessionVerdict
import AmigaDrivers.Common.DriversJson
import AmigaDrivers.Foundation.ReplacedFile
import AmigaDrivers.Common.JsonFile
import AmigaDrivers.Common.SessionRunner
import AmigaDrivers.Common.SessionRunnerSteps
import AmigaDrivers.Common.SessionRunnerLifecycle
import AmigaDrivers.Common.SessionRunnerVerdict
import AmigaDrivers.Common.SessionRunnerOutcome
import AmigaDrivers.Common.BoundedQueue
import AmigaDrivers.Common.BoundedQueueCalls
import AmigaDrivers.Lms.RecordingStatus
import AmigaDrivers.Lms.ColaBCodec
import AmigaDrivers.Lms.ColaBRoundTrip
import AmigaDrivers.Lms.CommandChannel
import AmigaDrivers.Foundation.PrefixCode
import AmigaDrivers.Lms.ActiveMessages
import AmigaDrivers.Lms.ScanFramePath
import AmigaDrivers.Lms.ScanVerify
import AmigaDrivers.Foundation.CivilDate
import AmigaDrivers.Lms.ScanTime
import AmigaDrivers.Lms.MalformedTime
import AmigaDrivers.Lms.ClockRollover
import AmigaDrivers.Lms.MeasurementShutdown
import AmigaDrivers.Lms.ClockQuality
import AmigaDrivers.Lms.ReceiveMonitor
import AmigaDrivers.Lms.SplitFiles
import AmigaDrivers.Lms.RawRecorder
import AmigaDrivers.Lms.RawRecorderSteps
import AmigaDrivers.Lms.RawRecorderAccounts
import AmigaDrivers.Lms.RawRecorderFiles
import AmigaDrivers.Lms.RawRecorderStop
import AmigaDrivers.Lms.SplitLayout
import AmigaDrivers.Lms.SplitMetadata
import AmigaDrivers.Asterx.SessionTimers
import AmigaDrivers.Asterx.SessionFailFast
import AmigaDrivers.Asterx.SessionConfiguration
import AmigaDrivers.Asterx.SessionWarmup
import AmigaDrivers.Lms.Recording
import AmigaDrivers.Lms.ClockAnomaly
import AmigaDrivers.Lms.RecordingAccounts
import AmigaDrivers.Lms.RecordingIntegrity
import AmigaDrivers.Lms.ScanDataReader
import AmigaDrivers.Lms.ScanDataMemory
import AmigaDrivers.Common.SensorSyncHub
import AmigaDrivers.Common.SensorSyncQuality
import AmigaDrivers.Foundation.Effect
import AmigaDrivers.Foundation.Json
import AmigaDrivers.Foundation.JsonText
import AmigaDrivers.Foundation.LittleEndian
import AmigaDrivers.Ebus.Crc32c
import AmigaDrivers.Ebus.BlockIds
import AmigaDrivers.Ebus.CameraBuffers
import AmigaDrivers.Ebus.RawFormat
import AmigaDrivers.Ebus.RawRecorder
import AmigaDrivers.Ebus.RawRecorderSteps
import AmigaDrivers.Ebus.RawRecorderEvents
import AmigaDrivers.Ebus.RawRecorderHonesty
import AmigaDrivers.Ebus.RawSegments
import AmigaDrivers.Ebus.RawRecorderSegments
import AmigaDrivers.Ebus.RawRecorderLayout
import AmigaDrivers.Ebus.RawRecorderRun
import AmigaDrivers.Ebus.AppendFailure
import AmigaDrivers.Foundation.MachineWord
import AmigaDrivers.Ebus.SegmentBounds
import AmigaDrivers.Ebus.Pixels
import AmigaDrivers.Ebus.PixelLayout
import AmigaDrivers.Ebus.Recording
import AmigaDrivers.Ebus.RecordingScan
import AmigaDrivers.Ebus.SegmentFile
import AmigaDrivers.Ebus.SegmentNames
import AmigaDrivers.Ebus.TornTail
import AmigaDrivers.Foundation.Histogram
import AmigaDrivers.Foundation.RawReader
import AmigaDrivers.Fx10.Statistics
import AmigaDrivers.Common.StringUtil
import AmigaDrivers.Common.DecimalText
import AmigaDrivers.Asterx.CommandSettings
import AmigaDrivers.Asterx.Commands
import AmigaDrivers.Asterx.SettingsValidation
import AmigaDrivers.Asterx.AcceptedSettings
import AmigaDrivers.Asterx.CommandLines
import AmigaDrivers.Asterx.CommandReadback
import AmigaDrivers.Common.Double
import AmigaDrivers.Foundation.LatchedAlarm
import AmigaDrivers.Common.RunGuards
import AmigaDrivers.Foundation.PowerOfTwo
import AmigaDrivers.Common.RingBuffer
import AmigaDrivers.Common.RotatingFileLayout
import AmigaDrivers.Common.RotatingFileCap
import AmigaDrivers.Asterx.SbfWriteStatistics
import AmigaDrivers.Foundation.StickyReader
import AmigaDrivers.Asterx.SbfParsers
import AmigaDrivers.Asterx.SbfBlocks
import AmigaDrivers.Asterx.Redaction
import AmigaDrivers.Foundation.EscapeCode
import AmigaDrivers.Asterx.PasswordEscape
import AmigaDrivers.Ebus.Ipv4
import AmigaDrivers.Foundation.LowBits
import AmigaDrivers.Ebus.SetIp
import AmigaDrivers.Foundation.ExactArithmetic
import AmigaDrivers.Ebus.BufferBudget
import AmigaDrivers.Foundation.SharedFiles
import AmigaDrivers.App.ConfigStore
import AmigaDrivers.App.ConfigStoreSteps
import AmigaDrivers.App.PairedSave
import AmigaDrivers.App.PairedSaveChecks
import AmigaDrivers.Common.RingBufferSize
import AmigaDrivers.App.LogBuffer
import AmigaDrivers.Foundation.Lines
import AmigaDrivers.Foundation.Utf8
import AmigaDrivers.App.SessionTailer
import AmigaDrivers.App.TelemetryCsv
import AmigaDrivers.App.TelemetryTail
import AmigaDrivers.Foundation.Runs
import AmigaDrivers.App.TelemetryTrack
import AmigaDrivers.Foundation.SlidingWindow
import AmigaDrivers.Ebus.PreviewRecords
import AmigaDrivers.Ebus.SessionReader
import AmigaDrivers.Ebus.SessionRoundTrip
import AmigaDrivers.Ebus.RawRecorderKept
import AmigaDrivers.Ebus.RawRecorderEnded
import AmigaDrivers.Foundation.Patches
import AmigaDrivers.App.OverviewFields
import AmigaDrivers.App.OverviewText
import AmigaDrivers.App.OverviewSave

import MissionBoard.Library.Run
import MissionBoard.Library.ElapsedClock
import MissionBoard.Library.SlotTable
import MissionBoard.Mission.TickBlocks
import MissionBoard.Mission.Tick
import MissionBoard.Mission.Operation
import MissionBoard.Mission.Invariant
import MissionBoard.Runtime.RecoveryBoot
import MissionBoard.Runtime.Reachable
import MissionBoard.Flight.Phase
import MissionBoard.Flight.Deployment
import MissionBoard.Flight.Epoch
import MissionBoard.Flight.ControlGate
import MissionBoard.Flight.ResetControl
import MissionBoard.Flight.ResetContinuity
import MissionBoard.Mission.CommandTable
import MissionBoard.Mission.StartExclusivity
import MissionBoard.Flight.Overtravel
import MissionBoard.Runtime.SafetyTask
import MissionBoard.Flight.SafetyClock
import MissionBoard.Runtime.CommandPipeline
import MissionBoard.Runtime.PipelineLedger
import MissionBoard.Runtime.Bookkeeping
import MissionBoard.Runtime.EmergencyStop
import MissionBoard.Runtime.MissionRealtime
import MissionBoard.Runtime.ParachuteTask
import MissionBoard.Runtime.FlightRun
import MissionBoard.Runtime.LiftoffLoop
import MissionBoard.Runtime.EmergencyFrames
import MissionBoard.Runtime.OpenRequests
import MissionBoard.Flight.AutomaticOpening
import MissionBoard.Flight.TimerFallback
import MissionBoard.Flight.DetectionDelivery
import MissionBoard.Flight.StopPermission
import MissionBoard.Flight.OpenRetention
import MissionBoard.Runtime.PowerRails
import MissionBoard.Flight.PowerCutoff
import MissionBoard.Library.BoundedQueue
import MissionBoard.Library.TransactionLedger
import MissionBoard.Mission.PendingTransactions
import MissionBoard.Mission.TransactionLifecycle
import MissionBoard.Mission.EmergencyTermination
import MissionBoard.Library.RecencyCache
import MissionBoard.Mission.ReplayCache
import MissionBoard.Mission.ReplayProtection
import MissionBoard.Library.WireFormat
import MissionBoard.Library.RetryLane
import MissionBoard.Protocol.CanMessages
import MissionBoard.Protocol.CanCodec
import MissionBoard.Protocol.CanExactness
import MissionBoard.Runtime.EventChannel
import MissionBoard.Runtime.EventDelivery
import MissionBoard.Runtime.RecoveryDump
import MissionBoard.Runtime.RecoveryTransfer
import MissionBoard.Mission.Recovery
import MissionBoard.Runtime.RecoveryWake
import MissionBoard.Runtime.RecoveryEntry
import MissionBoard.Runtime.RecoveryExit
import MissionBoard.Library.PrefixScan
import MissionBoard.Library.RingBuffer
import MissionBoard.Library.FoldedChecksum
import MissionBoard.Runtime.RtcChecksums
import MissionBoard.Library.Crc
import MissionBoard.Library.ByteLayout
import MissionBoard.Numeric.Binary32
import MissionBoard.Storage.FlightRecord
import MissionBoard.Storage.FlightLogCodec
import MissionBoard.Storage.InternalFlashLog
import MissionBoard.Storage.SdFlightLog
import MissionBoard.Storage.FlashExport
import MissionBoard.Storage.ExportInterleaving
import MissionBoard.Sensors.DisplayAttitude
import MissionBoard.Numeric.DoubleArithmetic
import MissionBoard.Sensors.AttitudeEstimator
import MissionBoard.Storage.FlushHandshake
import MissionBoard.Storage.StagedFile
import MissionBoard.Storage.StagingInvariant
import MissionBoard.Storage.StagingWriter
import MissionBoard.Storage.SdStaging
import MissionBoard.Characterization.CharacterizationTypes
import MissionBoard.Characterization.LogFormatV5
import MissionBoard.Characterization.FooterRoundTrip
import MissionBoard.Characterization.HeaderRoundTrip
import MissionBoard.Characterization.RecordValidation
import MissionBoard.Characterization.RecordFormat
import MissionBoard.Characterization.RecordRoundTrip
import MissionBoard.Characterization.CaptureValidation
import MissionBoard.Characterization.LogWriter
import MissionBoard.Characterization.Checksum
import MissionBoard.Library.FairSchedule
import MissionBoard.Characterization.WriterIndices
import MissionBoard.Characterization.WriterJam
import MissionBoard.Characterization.ControlProgress
import MissionBoard.Characterization.ControlRequests
import MissionBoard.Characterization.WriterContent
import MissionBoard.Characterization.WriterDelivery
import MissionBoard.Characterization.CampaignStateMachine
import MissionBoard.Characterization.CampaignOrdering
import MissionBoard.Characterization.HandoffConsumption
import MissionBoard.Flight.CutoffNotice
import MissionBoard.Runtime.TelemetryForm
import MissionBoard.Library.InjectiveFold
import MissionBoard.Library.PhaseUnwrap
import MissionBoard.Characterization.HandoffIntegrity
import MissionBoard.Characterization.SlotPresence
import MissionBoard.Characterization.FixedEpochAssembler
import MissionBoard.Characterization.EpochAssembly
import MissionBoard.Characterization.EpochCompleteness
import MissionBoard.Characterization.SampleSelection
import MissionBoard.Characterization.AssemblerAgreement
import MissionBoard.Characterization.CommandJournal
import MissionBoard.Characterization.JournalTruth
import MissionBoard.Characterization.EncoderSampler
import MissionBoard.Characterization.SlotAccounting
import MissionBoard.Characterization.SamplerHandshake
import MissionBoard.Sensors.DetectorSpecification
import MissionBoard.Sensors.AttitudeReplay
import MissionBoard.Library.Hysteresis
import MissionBoard.Sensors.AirspeedGate
import MissionBoard.Sensors.DifferentialPressure
import MissionBoard.Library.UniformQuantizer
import MissionBoard.Protocol.ExactQuantization
import MissionBoard.Protocol.QuantizationRoundTrip
import MissionBoard.Control.ControlPipeline
import MissionBoard.Library.PiecewiseLinear
import MissionBoard.Control.RollController
import MissionBoard.Control.FinVelocityEstimator
import MissionBoard.Characterization.ZeroApproach
import MissionBoard.Characterization.PositionGuard
import MissionBoard.Characterization.ProfilePlan
import MissionBoard.Characterization.ProfileRunner
import MissionBoard.Characterization.RunStages
import MissionBoard.Characterization.DriveSafety
import MissionBoard.Characterization.EpochCommand
import MissionBoard.Characterization.CommandAttribution
import MissionBoard.Characterization.RunRecords
import MissionBoard.Characterization.RunFooter
import MissionBoard.Characterization.RunEnding
import MissionBoard.Bringup.StreamPayload
import MissionBoard.Bringup.RecordSchema
import MissionBoard.Bringup.StreamProtocol
import MissionBoard.Bringup.FrameParser
import MissionBoard.Bringup.FrameBytes
import MissionBoard.Bringup.StreamCapture
import MissionBoard.Bringup.StreamDamage
import MissionBoard.Actuators.ProductionMotor
import MissionBoard.Actuators.MotorExclusion
import MissionBoard.Actuators.MotorCoast
import MissionBoard.Actuators.MotorOutcome
import MissionBoard.Runtime.FinOutput
import MissionBoard.Runtime.FinPermission
import MissionBoard.Runtime.FinReport
import MissionBoard.Sensors.FinAngle
import MissionBoard.Runtime.SpscQueues
import MissionBoard.Characterization.AbsolutePeriodicTimer

import TeslamateWatchdog.Foundation.Streak
import TeslamateWatchdog.Foundation.Ledger
import TeslamateWatchdog.Foundation.PyTime
import TeslamateWatchdog.Foundation.Utf8
import TeslamateWatchdog.StateMachine
import TeslamateWatchdog.Foundation.PyNumber
import TeslamateWatchdog.LogClassifier
import TeslamateWatchdog.RestartManager
import TeslamateWatchdog.CheckCycle
import TeslamateWatchdog.StateMachineRuns
import TeslamateWatchdog.Digest
import TeslamateWatchdog.Foundation.Mealy
import TeslamateWatchdog.CycleCourse
import TeslamateWatchdog.RestartLog
import TeslamateWatchdog.CheckLoop
import TeslamateWatchdog.RunHistory
import TeslamateWatchdog.RestartSafety
import TeslamateWatchdog.RestartPolicy
import TeslamateWatchdog.RecoveryProtocol
import TeslamateWatchdog.EngineBudget
import TeslamateWatchdog.RestartTarget
import TeslamateWatchdog.HistoryFile
import TeslamateWatchdog.HistoryLife
import TeslamateWatchdog.RecordSteps
import TeslamateWatchdog.CrashSafety
import TeslamateWatchdog.RecoveryVerdict
import TeslamateWatchdog.Foundation.BigEndian
import TeslamateWatchdog.LogFraming
import TeslamateWatchdog.RecoverySteps
import TeslamateWatchdog.Foundation.Lockstep
import TeslamateWatchdog.LogInfluence
import TeslamateWatchdog.CycleReports
import TeslamateWatchdog.FailureReports
import TeslamateWatchdog.ContainerEvidence
import TeslamateWatchdog.Foundation.Latest
import TeslamateWatchdog.MqttClient
import TeslamateWatchdog.HeartbeatTraces
import TeslamateWatchdog.BrokerOutage
import TeslamateWatchdog.BundleTruth
import TeslamateWatchdog.RestartRefinement
import TeslamateWatchdog.Diagnostics
import TeslamateWatchdog.BundleTexts
import TeslamateWatchdog.TokenLeaks
import TeslamateWatchdog.ContainerListing
import TeslamateWatchdog.EngineAnswers
import TeslamateWatchdog.Foundation.TopicFilter
import TeslamateWatchdog.TopicFilters
import TeslamateWatchdog.FallbackVerdict
import TeslamateWatchdog.Foundation.PyOrder
import TeslamateWatchdog.DamagedHistory
import TeslamateWatchdog.DiagnosticsFaults
import TeslamateWatchdog.BundleRetention
import TeslamateWatchdog.Foundation.Pieces
import TeslamateWatchdog.Foundation.Leftovers
import TeslamateWatchdog.RedactionGaps
import TeslamateWatchdog.Foundation.YamlValue
import TeslamateWatchdog.PatternsFile
import TeslamateWatchdog.Durations
import TeslamateWatchdog.HttpCheck
import TeslamateWatchdog.Foundation.Dict
import TeslamateWatchdog.Foundation.JsonScanner
import TeslamateWatchdog.Foundation.JsonWriter
import TeslamateWatchdog.Foundation.JsonReader
import TeslamateWatchdog.Foundation.JsonRoundTrip
import TeslamateWatchdog.Foundation.JsonIntegers
import TeslamateWatchdog.Foundation.Triple
import TeslamateWatchdog.TraceRules
import TeslamateWatchdog.PublishedEvents
import TeslamateWatchdog.HistoryText
import TeslamateWatchdog.LoggingSetup
import TeslamateWatchdog.Foundation.JinjaTemplate
import TeslamateWatchdog.HomeAssistant
import TeslamateWatchdog.HaDiscovery
import TeslamateWatchdog.Foundation.Broker
import TeslamateWatchdog.Foundation.BrokerRules
import TeslamateWatchdog.Foundation.MqttService
import TeslamateWatchdog.Availability
import TeslamateWatchdog.RetainedView
import TeslamateWatchdog.ShownStatus
import TeslamateWatchdog.RetainedStays
import TeslamateWatchdog.Environment
import TeslamateWatchdog.Foundation.PyStrip
import TeslamateWatchdog.EnvironmentReads
import TeslamateWatchdog.Foundation.PyDigits
import TeslamateWatchdog.SettingsRange
import TeslamateWatchdog.StartUp
import TeslamateWatchdog.Foundation.Reopening
import TeslamateWatchdog.GuardReopening
import TeslamateWatchdog.Foundation.PeriodicLoop
import TeslamateWatchdog.CheckSchedule
import TeslamateWatchdog.OutageDuration
import TeslamateWatchdog.Responsiveness
import TeslamateWatchdog.RestartCount
import TeslamateWatchdog.SilenceWarning

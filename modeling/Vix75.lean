import Vix75.EffectProgram
import Vix75.KeyedTable
import Vix75.Schemas
import Vix75.ExecutionCore
import Vix75.DecimalRounding
import Vix75.SizingCore
import Vix75.SizingChecks
import Vix75.ExecutionSystem
import Vix75.ExecutionChecks
import Vix75.DeliveryCore
import Vix75.DeliveryChecks
import Vix75.ExecutorChecks
import Vix75.RiskCore
import Vix75.RiskSystem
import Vix75.FeatureCore
import Vix75.ZoneChecks
import Vix75.Custody
import Vix75.RiskChecks
import Vix75.TotalRiskChecks
import Vix75.TradeCapChecks
import Vix75.SignalCore
import Vix75.SignalConsumer
import Vix75.RegimeChecks
import Vix75.FeatureConsumer
import Vix75.PipelineSystem
import Vix75.SignalChecks
import Vix75.PipelineChecks
import Vix75.ProgramRuns
import Vix75.SignalGateChecks
import Vix75.SweepCore
import Vix75.SweepChecks
import Vix75.TicketChecks
import Vix75.FillVolumeChecks
import Vix75.FastPathChecks
import Vix75.DescendingOrbit
import Vix75.RiskGateCore
import Vix75.RiskGateChecks
import Vix75.OrderLevelsChecks
import Vix75.IngestChecks
import Vix75.ProgramHandlers
import Vix75.BackfillChecks
import Vix75.IndicatorChecks
import Vix75.ZoneHistoryChecks
import Vix75.BarEventChecks
import Vix75.BatchFeatureChecks
import Vix75.TrainingChecks
import Vix75.ZoneLifecycleChecks
import Vix75.Documents
import Vix75.WireFormats
import Vix75.WireChecks
import Vix75.RateLimitChecks
import Vix75.NotifyChecks
import Vix75.MirrorChecks
import Vix75.SignalSideChecks
import Vix75.Redaction
import Vix75.RedactionChecks
import Vix75.EventRedactionChecks
import Vix75.ConfluenceIndicator
import Vix75.ArrowChecks
import Vix75.RecalculationChecks
import Vix75.Artifacts
import Vix75.ArtifactChecks
import Vix75.FeatureDeliveryChecks
import Vix75.RetryChecks
import Vix75.MarginChecks
import Vix75.MetaLabel
import Vix75.MetaLabelChecks
import Vix75.GreedyThinning
import Vix75.SwingChecks
import Vix75.WarmSeries
import Vix75.IndicatorBounds
import Vix75.FrameChecks
import Vix75.RsiSymmetryChecks
import Vix75.ZoneDetectionChecks
import Vix75.TrendVoteChecks
import Vix75.ClosedAlertChecks
import Vix75.HistoryPages
import Vix75.CloseHistoryChecks
import Vix75.RetryAfterChecks
import Vix75.ProxyChecks
import Vix75.InferenceChecks
import Vix75.MaskedText
import Vix75.LogFormatting
import Vix75.LogTemplateChecks
import Vix75.LogArgumentChecks
import Vix75.LogFormattingChecks
import Vix75.ProgramResults
import Vix75.TradeLifecycle
import Vix75.RiskVerdicts
import Vix75.ProgramStories
import Vix75.GatewayCore
import Vix75.GatewayChecks
import Vix75.GatewaySessions
import Vix75.PipelineTracing
import Vix75.KeyedHistory
import Vix75.ExposureCore
import Vix75.ExposureChecks
import Vix75.RateHistory
import Vix75.RegimeRelabelling
import Vix75.ProgramLocks
import Vix75.MlServiceCore
import Vix75.MlServiceChecks
import Vix75.RegimeChart
import Vix75.ProgramLinks
import Vix75.OrderTracing
import Vix75.TradingDesk
import Vix75.MonotoneOrbit

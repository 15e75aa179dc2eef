import IbkrPlatform.Library.EarlyExit
import IbkrPlatform.Library.OrderedMap
import IbkrPlatform.Library.Transition
import IbkrPlatform.Library.VersionedCell
import IbkrPlatform.FlexDaily.LeaseFencing
import IbkrPlatform.FlexDaily.Watch
import IbkrPlatform.Execution.ExecutionClaim
import IbkrPlatform.FlexDaily.Calendar
import IbkrPlatform.FlexDaily.Forward
import IbkrPlatform.FlexDaily.EventChain
import IbkrPlatform.FlexDaily.Coverage
import IbkrPlatform.FlexDaily.Collect
import IbkrPlatform.FlexDaily.WindowSteps
import IbkrPlatform.FlexDaily.Validation
import IbkrPlatform.FlexDaily.AnchorLinks
import IbkrPlatform.Execution.Orders
import IbkrPlatform.Execution.SettledCash
import IbkrPlatform.Execution.NewRiskGate
import IbkrPlatform.Execution.RiskAuthority
import IbkrPlatform.Execution.Planning
import IbkrPlatform.Execution.Rebalance
import IbkrPlatform.Execution.Stages
import IbkrPlatform.Execution.BuyBlocks
import IbkrPlatform.Execution.LiveOrders
import IbkrPlatform.Execution.Frames
import IbkrPlatform.Execution.BreakerRuns
import IbkrPlatform.Execution.OrderOutcomes
import IbkrPlatform.Execution.ExecutionLock
import IbkrPlatform.Execution.SettledBudget
import IbkrPlatform.Execution.DryRunParity
import IbkrPlatform.Execution.ApprovedEquity
import IbkrPlatform.Settlement.Records
import IbkrPlatform.Settlement.Observers
import IbkrPlatform.Settlement.Summary
import IbkrPlatform.Library.Dictionary
import IbkrPlatform.Notifications.Candidates
import IbkrPlatform.Notifications.RowHistory
import IbkrPlatform.Notifications.Projection
import IbkrPlatform.Notifications.Publication
import IbkrPlatform.Notifications.ConflictRetries
import IbkrPlatform.Notifications.SettlementCandidates
import IbkrPlatform.Notifications.Notices
import IbkrPlatform.Notifications.NoticePass
import IbkrPlatform.Reporting.ExecutionReceipt
import IbkrPlatform.Reporting.CycleReport
import IbkrPlatform.Heartbeat.Cron
import IbkrPlatform.FlexDaily.MonthControls
import IbkrPlatform.Settlement.SettlePass
import IbkrPlatform.Notifications.NoticeInterference
import IbkrPlatform.Execution.FillReports
import IbkrPlatform.Execution.OrderLimits
import IbkrPlatform.Execution.CashSweep
import IbkrPlatform.Library.SortedList
import IbkrPlatform.Execution.PendingOrders
import IbkrPlatform.Execution.RiskProjection
import IbkrPlatform.Execution.UnsafeSignals
import IbkrPlatform.FlexDaily.EventCompleteness
import IbkrPlatform.Library.Decimal
import IbkrPlatform.Library.DecimalText
import IbkrPlatform.Library.Gather
import IbkrPlatform.Ledger.FlexFields
import IbkrPlatform.Ledger.Projections
import IbkrPlatform.Ledger.NetFlow
import IbkrPlatform.Ledger.PeriodReturn
import IbkrPlatform.Ledger.NativeReturn
import IbkrPlatform.FlexDaily.Report
import IbkrPlatform.FlexDaily.Residuals
import IbkrPlatform.FlexDaily.Strptime
import IbkrPlatform.FlexDaily.WindowReport
import IbkrPlatform.FlexDaily.Escapes
import IbkrPlatform.FlexDaily.Fetcher
import IbkrPlatform.Library.Sole
import IbkrPlatform.Library.Document
import IbkrPlatform.Library.Extended
import IbkrPlatform.Library.Buckets
import IbkrPlatform.Portfolio.CashObservations
import IbkrPlatform.Reconciliation.Observations
import IbkrPlatform.Reconciliation.Continuity
import IbkrPlatform.Portfolio.CashSelectors
import IbkrPlatform.Portfolio.StrategySnapshot
import IbkrPlatform.Notifications.ObservationCounts
import IbkrPlatform.Execution.LockScopes
import IbkrPlatform.Execution.CashRefresh
import IbkrPlatform.Notifications.SettledAlerts
import IbkrPlatform.Reporting.SettledReceipt
import IbkrPlatform.Notifications.Incidents
import IbkrPlatform.Notifications.IncidentRuns
import IbkrPlatform.Notifications.IncidentEffects
import IbkrPlatform.Recovery.WarmRecovery
import IbkrPlatform.Recovery.RecoverySteps
import IbkrPlatform.Recovery.RecoveryCourse
import IbkrPlatform.Recovery.RecoveryRuns
import IbkrPlatform.Library.Procedure
import IbkrPlatform.Library.Distinct
import IbkrPlatform.Library.Json
import IbkrPlatform.Library.Quantize
import IbkrPlatform.AccountFacts.PublisherRuns
import IbkrPlatform.Gateway.ConnectionRuns

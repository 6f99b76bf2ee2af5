import HyperTrader.Nonce.Correspondence
import HyperTrader.Nonce.Rollback
import HyperTrader.Nonce.Retirement
import HyperTrader.Nonce.RetirementManifest
import HyperTrader.Nonce.Refusal
import HyperTrader.Journal.Marker
import HyperTrader.Journal.Recovery
import HyperTrader.Reconciliation.Exclusivity
import HyperTrader.Reconciliation.Expiry
import HyperTrader.Reconciliation.Soundness
import HyperTrader.Custody.Manifest
import HyperTrader.Custody.Generations
import HyperTrader.Context.Supervisor
import HyperTrader.Actions.ExchangeClient
import HyperTrader.Actions.DerivedPrices
import HyperTrader.Actions.ExactDecimals
import HyperTrader.Actions.Classification
import HyperTrader.Orchestrator.Equivalence
import HyperTrader.Orchestrator.Deadline
import HyperTrader.Session.Disposal
import HyperTrader.Streams.MarketContext
import HyperTrader.Streams.Resync
import HyperTrader.Streams.Foreground
import HyperTrader.Streams.Sequenced
import HyperTrader.Monitor.Leases
import HyperTrader.Monitor.SlidingLimits
import HyperTrader.Notifications.FreshIds
import HyperTrader.Notifications.Stranded
import HyperTrader.Notifications.Ledger
import HyperTrader.Notifications.AdmissionLimits
import HyperTrader.Notifications.RuleUpsert
import HyperTrader.Accounts.Lifecycle
import HyperTrader.Markets.SummaryPages
import HyperTrader.Rules.Runs
import HyperTrader.Rules.Crossings
import HyperTrader.Rules.EventKeys
import HyperTrader.Rules.LateJoin
import HyperTrader.Transport.Unsubscribing
import HyperTrader.Preferences.Provider
import HyperTrader.Alerts.Opened
import HyperTrader.Delivery.Verdicts
import HyperTrader.Delivery.ReceiptLifecycle
import HyperTrader.Workers.Exclusive
import HyperTrader.Workers.Runtime
import HyperTrader.Workers.Statements
import HyperTrader.Trade.SpotFunds
import HyperTrader.Trade.CandleHistory
import HyperTrader.Portfolio.Identity

import ZcashPayment.Table
import ZcashPayment.SqlTable
import ZcashPayment.FixedWidth
import ZcashPayment.Program
import ZcashPayment.Transactions
import ZcashPayment.OrderedHandOff
import ZcashPayment.Schema
import ZcashPayment.Timestamps
import ZcashPayment.Migration
import ZcashPayment.Upgrades
import ZcashPayment.Totals
import ZcashPayment.Service
import ZcashPayment.Identity
import ZcashPayment.AddressAllocation
import ZcashPayment.Startups
import ZcashPayment.Initialize
import ZcashPayment.Ledger
import ZcashPayment.LedgerSpec
import ZcashPayment.LedgerRuns
import ZcashPayment.LedgerTotals
import ZcashPayment.LedgerRows
import ZcashPayment.ConfirmedReceipts
import ZcashPayment.Deliveries
import ZcashPayment.Chronology
import ZcashPayment.QueueSpec
import ZcashPayment.DeliveryLifecycle
import ZcashPayment.DeliveryWorker
import ZcashPayment.Outbox
import ZcashPayment.WebhookRuns
import ZcashPayment.Convergence
import ZcashPayment.FailedDeliveries
import ZcashPayment.Scan
import ZcashPayment.ScanPlan
import ZcashPayment.Sync
import ZcashPayment.DownloadPipeline
import ZcashPayment.SyncSpec
import ZcashPayment.ChainMirror
import ZcashPayment.SyncMirror
import ZcashPayment.SyncIteration
import ZcashPayment.Reorgs
import ZcashPayment.ScanProgress
import ZcashPayment.Invariants
import ZcashPayment.Interruptions
import ZcashPayment.Unreported
import ZcashPayment.ConfirmationArrays
import ZcashPayment.DecimalText
import ZcashPayment.DecimalPoint
import ZcashPayment.UriText
import ZcashPayment.PluginZcash
import ZcashPayment.PluginState
import ZcashPayment.Vendure
import ZcashPayment.VendureSafety
import ZcashPayment.Medusa
import ZcashPayment.MedusaHold
import ZcashPayment.WebhookBodies
import ZcashPayment.QueuedDeliveries
import ZcashPayment.ZecAmounts
import ZcashPayment.PaymentUri
import ZcashPayment.PaymentStatus
import ZcashPayment.Html
import ZcashPayment.JsonText
import ZcashPayment.PayPage
import ZcashPayment.PageSafety
import ZcashPayment.PluginPrices
import ZcashPayment.DepthAgreement
import ZcashPayment.OrderLifecycle
import ZcashPayment.PhpZcash
import ZcashPayment.WooCommerce
import ZcashPayment.WooCommerceSafety
import ZcashPayment.PrestaShop
import ZcashPayment.PrestaShopSafety
import ZcashPayment.ReturnUrls
import ZcashPayment.PaymentSessions
import ZcashPayment.SessionRuns
import ZcashPayment.SimulatedPayments
import ZcashPayment.TaskPool
import ZcashPayment.BlockScan
import ZcashPayment.HexText
import ZcashPayment.SignedWebhooks
import ZcashPayment.SettledFunds
import ZcashPayment.ShopPlugins
import ZcashPayment.FundedOrders
import ZcashPayment.SettledByHand

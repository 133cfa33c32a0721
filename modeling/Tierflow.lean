import Tierflow.Foundation.Table
import Tierflow.Foundation.Transaction
import Tierflow.Foundation.Rounding
import Tierflow.Foundation.Text
import Tierflow.Foundation.Calendar
import Tierflow.Foundation.Ledger
import Tierflow.Store.Schema
import Tierflow.Subscription.Period
import Tierflow.Bucket.Operations
import Tierflow.Bucket.System
import Tierflow.Bucket.Meter
import Tierflow.Bucket.Bounds
import Tierflow.Bucket.Records
import Tierflow.Bucket.Idempotence
import Tierflow.Bucket.Periods
import Tierflow.Billing.Accounts
import Tierflow.Billing.Session
import Tierflow.Billing.Funding
import Tierflow.Billing.Conservation
import Tierflow.Billing.BasicBucket
import Tierflow.TopUp.Callback
import Tierflow.TopUp.CreditOnce
import Tierflow.Subscription.Pricing
import Tierflow.Subscription.Lifecycle
import Tierflow.Subscription.Orders
import Tierflow.Subscription.System
import Tierflow.Subscription.Effects
import Tierflow.Subscription.OrderStatus
import Tierflow.Subscription.Revocation
import Tierflow.Subscription.RefundBalance
import Tierflow.Subscription.UserGroup
import Tierflow.Subscription.Mirror
import Tierflow.Subscription.Rotation
import Tierflow.Subscription.SinglePlan
import Tierflow.Redemption.Codes
import Tierflow.Subscription.PlanDelete
import Tierflow.Foundation.Machine
import Tierflow.RouteHealth.Breaker
import Tierflow.RouteHealth.Steps
import Tierflow.RouteHealth.Cooldown
import Tierflow.RouteHealth.Trips
import Tierflow.Foundation.Selection
import Tierflow.Routing.Channels
import Tierflow.Routing.Abilities
import Tierflow.Routing.Agreement
import Tierflow.Foundation.Loop
import Tierflow.Routing.Keys
import Tierflow.Routing.Progress
import Tierflow.Relay.Loop
import Tierflow.Relay.Bounds
import Tierflow.Foundation.Process
import Tierflow.TopUp.OrderLocks
import Tierflow.Counters.Columns
import Tierflow.Counters.Batch
import Tierflow.PerfMetrics.Buckets
import Tierflow.PerfMetrics.Conservation
import Tierflow.Routing.CacheInit
import Tierflow.Routing.KeyStatus
import Tierflow.Convert.Stream
import Tierflow.Convert.Grammar
import Tierflow.Convert.Message
import Tierflow.Convert.Lossless
import Tierflow.Convert.Request
import Tierflow.Convert.Turns
import Tierflow.Relay.ModelGroups
import Tierflow.Relay.Distribute
import Tierflow.Relay.GroupAttempts
import Tierflow.Relay.GateAgreement
import Tierflow.Convert.Usage
import Tierflow.Foundation.SlidingWindow
import Tierflow.RateLimit.Window
import Tierflow.RateLimit.Handlers
import Tierflow.RateLimit.Rules
import Tierflow.Convert.FromClaude
import Tierflow.Convert.ClaudeStream
import Tierflow.Compat.Namespace
import Tierflow.Compat.Responses
import Tierflow.Compat.ResponseRoundTrip
import Tierflow.Compat.ChatStream
import Tierflow.Compat.ChatStreamItems
import Tierflow.Compat.ChatStreamAgreement
import Tierflow.Compat.ResponsesStream
import Tierflow.Compat.ResponsesStreamCalls
import Tierflow.Compat.ResponsesStreamAgreement
import Tierflow.Billing.TieredExpr
import Tierflow.Foundation.Tasks
import Tierflow.Users.Balance
import Tierflow.Users.Cache
import Tierflow.Users.TwoFactor
import Tierflow.Users.TwoFactorSafety
import Tierflow.Cluster.Nodes
import Tierflow.Cluster.Draining
import Tierflow.Cluster.ChannelSync
import Tierflow.Billing.ServingRatio
import Tierflow.Relay.ServingGroup
import Tierflow.Convert.GeminiText
import Tierflow.Convert.GeminiRequest
import Tierflow.Relay.StreamErrors
import Tierflow.Relay.Output
import Tierflow.Foundation.Keyed
import Tierflow.Routing.AbilityRows
import Tierflow.Routing.Mirror
import Tierflow.Foundation.Schedule
import Tierflow.Subscription.Replay
import Tierflow.Subscription.ResetSchedule
import Tierflow.TopUp.TokenAmount
import Tierflow.Subscription.UpgradeChain
import Tierflow.Billing.SummarySound
import Tierflow.Billing.TieredParams
import Tierflow.Billing.Atomicity
import Tierflow.Billing.ZeroUsage
import Tierflow.Tokens.Charging
import Tierflow.Convert.GeminiStream
import Tierflow.Convert.GeminiStreamAgreement
import Tierflow.RouteHealth.Pruning
import Tierflow.Foundation.RoundRobin
import Tierflow.Routing.KeyPolling
import Tierflow.Foundation.JsonText
import Tierflow.Routing.KeyDeletion
import Tierflow.Foundation.Shares
import Tierflow.Routing.Disabling
import Tierflow.Routing.WeightedPick
import Tierflow.Foundation.Bands
import Tierflow.Routing.Profile
import Tierflow.Foundation.Turns
import Tierflow.Relay.MemberTurns
import Tierflow.Foundation.Documents
import Tierflow.Relay.ContextEstimate
import Tierflow.Relay.StatusCodeRanges
import Tierflow.Foundation.Substitution
import Tierflow.Relay.NegativeIndex
import Tierflow.Convert.ToClaude
import Tierflow.Compat.NamespaceRoundTrip
import Tierflow.Foundation.Claiming
import Tierflow.Relay.StreamScanner
import Tierflow.Compat.ReasoningContinuity
import Tierflow.Compat.ToolCallIds
import Tierflow.Convert.FromGemini
import Tierflow.Convert.ToGemini
import Tierflow.Foundation.JsonPaths
import Tierflow.Foundation.JsonStars
import Tierflow.Relay.LegacyOverride
import Tierflow.Relay.MoveValue
import Tierflow.Relay.PruneObjects
import Tierflow.Relay.WildcardPaths
import Tierflow.Billing.ProviderCost
import Tierflow.Billing.StreamUsage
import Tierflow.Capture.Quota
import Tierflow.Capture.Replies
import Tierflow.Capture.Transport
import Tierflow.Foundation.AddressBlocks
import Tierflow.Foundation.Chains
import Tierflow.Foundation.CleanLists
import Tierflow.Foundation.Pieces
import Tierflow.Foundation.Wildcards
import Tierflow.Outbound.Addresses
import Tierflow.Outbound.SsrfProtection
import Tierflow.RateLimit.SharedLimiter
import Tierflow.Relay.DisabledFields
import Tierflow.Relay.ModelMapping
import Tierflow.Routing.ChannelAffinity
import Tierflow.Routing.UpstreamModels
import Tierflow.Routing.UpstreamSync
import Tierflow.Billing.ToolPrices
import Tierflow.Counters.UsageData
import Tierflow.Foundation.Bytes
import Tierflow.Relay.ConsoleRules
import Tierflow.Relay.VolcengineFrames
import Tierflow.Relay.VolcengineRoundTrip
import Tierflow.Foundation.Skipping
import Tierflow.Relay.PlanModelSets
import Tierflow.Relay.SundaySearch
import Tierflow.Routing.Aliases
import Tierflow.Subscription.Maintenance
import Tierflow.Users.Checkin
import Tierflow.Users.Tickets
import Tierflow.Users.VerificationCodes
import Tierflow.Routing.CacheKeys

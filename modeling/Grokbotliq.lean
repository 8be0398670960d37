import Grokbotliq.Core.CandidateBands
import Grokbotliq.Core.FundingOrder
import Grokbotliq.Core.IndexLocks
import Grokbotliq.Core.IndexSections
import Grokbotliq.Core.ProfitExact
import Grokbotliq.Core.Registrations
import Grokbotliq.Core.StoreMerge
import Grokbotliq.Core.TriggerPrice
import Grokbotliq.Core.UsdExact
import Grokbotliq.Core.Wakes
import Grokbotliq.Execution.BidBudget
import Grokbotliq.Execution.BorrowIndex
import Grokbotliq.Execution.PlanIdl
import Grokbotliq.Execution.PlanLiquidates
import Grokbotliq.Execution.PlanRefresh
import Grokbotliq.Execution.PlanSigners
import Grokbotliq.Execution.ReceivershipCap
import Grokbotliq.Execution.RollingBudget
import Grokbotliq.Execution.ShadowReport
import Grokbotliq.Execution.VersionedTx
import Grokbotliq.Fixtures.Shadow
import Grokbotliq.Framework.Outcome
import Grokbotliq.Kamino.DecodeIdl
import Grokbotliq.Kamino.DecodeSafety
import Grokbotliq.Liquidator.DryTicks
import Grokbotliq.Liquidator.LiveRun
import Grokbotliq.Liquidator.Startup
import Grokbotliq.Project0.FeeState
import Grokbotliq.Risk.Admission
import Grokbotliq.Risk.BreakerRuns
import Grokbotliq.Risk.ExecutionLedger
import Grokbotliq.Risk.HealthVerdict
import Grokbotliq.Risk.SeizedCollateral
import Grokbotliq.Routing.JupiterQuote
import Grokbotliq.Routing.MidQuote
import Grokbotliq.Routing.ShadowEnvelope
import Grokbotliq.Save.Ordering
import Grokbotliq.Save.SdkCodec
import Grokbotliq.Save.SdkLayout
import Grokbotliq.Streaming.Bootstrap
import Grokbotliq.Streaming.CriticalBand
import Grokbotliq.Streaming.Discovery
import Grokbotliq.Streaming.Failover
import Grokbotliq.Streaming.FailoverMux
import Grokbotliq.Streaming.Forwarding
import Grokbotliq.Streaming.LocalEnv
import Grokbotliq.Streaming.MinimalTx
import Grokbotliq.Streaming.PoolCalls
import Grokbotliq.Streaming.RpcPool
import Grokbotliq.Streaming.RpcServer
import Grokbotliq.Streaming.SecretUrls
import Grokbotliq.Streaming.StartupEnv

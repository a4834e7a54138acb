import EnergyNode.BidAcceptance
import EnergyNode.BidAllocation
import EnergyNode.BidAttempts
import EnergyNode.BudgetChain
import EnergyNode.BuyCandidates
import EnergyNode.BuyCapacity
import EnergyNode.BuyDeficit
import EnergyNode.CallsUnlocked
import EnergyNode.CityIsolation
import EnergyNode.CityLedgers
import EnergyNode.Connector.MarketQueue
import EnergyNode.CycleMetricFigures
import EnergyNode.DispatchWindows
import EnergyNode.DoubleCommitment
import EnergyNode.EconomicFacts
import EnergyNode.FactRedelivery
import EnergyNode.FeedAgreement
import EnergyNode.HoldEvidence
import EnergyNode.IdpkClaims
import EnergyNode.MarketClosing
import EnergyNode.MarketExtinction
import EnergyNode.MarketOrder
import EnergyNode.NegotiationEffects
import EnergyNode.NegotiationOutcomes
import EnergyNode.OperationsOnce
import EnergyNode.RateLimitRuns
import EnergyNode.ReconciliationMatch
import EnergyNode.ReportWindow
import EnergyNode.ResponderProtocol
import EnergyNode.SenderIdentity
import EnergyNode.SettlementArithmetic
import EnergyNode.SingleOperation
import EnergyNode.StrategyVersions
import EnergyNode.SwapCorrelation
import EnergyNode.SwapProgress
import EnergyNode.SweepProgress
import EnergyNode.TerminalOutcomes

import RewardSystem.PrizeEngine.Idempotency
import RewardSystem.Withdraw.DualApproval
import RewardSystem.Economy.NetGrant
import RewardSystem.Control.FourEyes
import RewardSystem.Fairness.Reveal
import RewardSystem.Realtime.Resume
import RewardSystem.RealtimeClient.LiveStatus
import RewardSystem.System.CacheCoherence
import RewardSystem.Holdem.FoldedOut
import RewardSystem.Holdem.Hiding
import RewardSystem.PredictionMarket.Books
import RewardSystem.Economy.LedgerChain
import RewardSystem.Draw.PrizeStock
import RewardSystem.Gamification.MarketingBudget
import RewardSystem.Webhook.SingleEffect
import RewardSystem.Crypto.SingleUse
import RewardSystem.Billing.InvoiceLines
import RewardSystem.PrizeEngine.GovernorLeases
import RewardSystem.HandEvidence.Masking
import RewardSystem.PrizeEngine.EnvelopeWindows
import RewardSystem.Billing.DisputeRefunds
import RewardSystem.Billing.Recompute
import RewardSystem.PrizeEngine.DailyBudget
import RewardSystem.PrizeEngine.HardCap
import RewardSystem.PrizeEngine.ScopeBudgets
import RewardSystem.PredictionMarket.ExactSettlement
import RewardSystem.Holdem.OddChips
import RewardSystem.Holdem.Reopening
import RewardSystem.RealtimeClient.TableChat
import RewardSystem.Draw.Selection
import RewardSystem.Fairness.WeightedPicks
import RewardSystem.Blackjack.NewestGame
import RewardSystem.Blackjack.Results
import RewardSystem.Fairness.ClientHash
import RewardSystem.PrizeEngine.CapChanges
import RewardSystem.Wallet.ReadersAgree
import RewardSystem.Payment.OutboundSync
import RewardSystem.PlayMode.ReleaseUndoes
import RewardSystem.Billing.VersionSelection
import RewardSystem.Blackjack.Scoring
import RewardSystem.RateLimit.Agreement
import RewardSystem.PredictionMarket.ChainlinkDecoding
import RewardSystem.HandEvidence.Signing
import RewardSystem.Holdem.Places

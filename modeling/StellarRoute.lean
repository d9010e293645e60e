import StellarRoute.Contracts.Proofs.Governance
import StellarRoute.Contracts.Proofs.Privilege
import StellarRoute.Contracts.Proofs.Commitments
import StellarRoute.Contracts.Proofs.Routes
import StellarRoute.Contracts.Proofs.Allowlist
import StellarRoute.Contracts.Proofs.Pools
import StellarRoute.Contracts.Proofs.FeeSetters
import StellarRoute.Contracts.Proofs.Upgrades
import StellarRoute.Contracts.Proofs.Versions
import StellarRoute.Contracts.Proofs.FeeBooks
import StellarRoute.Contracts.Proofs.RateLimit
import StellarRoute.Contracts.Proofs.Lifetimes
import StellarRoute.Routing.Proofs.Paths
import StellarRoute.Routing.Proofs.Compaction
import StellarRoute.Cctp.Proofs.Payloads
import StellarRoute.Cctp.Proofs.Completion
import StellarRoute.Cctp.Proofs.Retry
import StellarRoute.Cctp.Proofs.BurnAcceptance
import StellarRoute.Cctp.Proofs.Nonces
import StellarRoute.Cctp.Proofs.Reattest
import StellarRoute.Cctp.Proofs.Claims
import StellarRoute.Cctp.Proofs.PollTimeout
import StellarRoute.Cctp.Proofs.Signatures
import StellarRoute.Cctp.Proofs.Messages
import StellarRoute.Cctp.Proofs.TrustRecovery
import StellarRoute.Card.Proofs.Money
import StellarRoute.Card.Proofs.Events
import StellarRoute.Card.Proofs.Freeze
import StellarRoute.Quote.Proofs.Selection
import StellarRoute.Quote.Proofs.KillSwitch
import StellarRoute.Quote.Proofs.Invalidation
import StellarRoute.Quote.Proofs.PostQuote
import StellarRoute.Quote.Proofs.Priorities
import StellarRoute.Quote.Proofs.SingleFlight
import StellarRoute.Swap.Proofs.ActiveQuotes
import StellarRoute.Swap.Proofs.LiveTransactions
import StellarRoute.Contracts.Proofs.Quotes
import StellarRoute.Http.Proofs.RateLimit
import StellarRoute.Indexer.Proofs.Deduplication
import StellarRoute.Indexer.Proofs.Sdex
import StellarRoute.Indexer.Proofs.Amm
import StellarRoute.Routes.Proofs.Canary
import StellarRoute.Contracts.Proofs.Adapter
import StellarRoute.Routing.Proofs.OrderBook
import StellarRoute.Http.Proofs.MessageLimit
import StellarRoute.Indexer.Proofs.Termination
import StellarRoute.Indexer.Proofs.OutOfOrder

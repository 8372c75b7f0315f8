import AtomicArbitrage.Program.Accounting
import AtomicArbitrage.Program.Constants
import AtomicArbitrage.Program.Cpi
import AtomicArbitrage.Program.DlmmPricing
import AtomicArbitrage.Program.Entry
import AtomicArbitrage.Program.LegacyRoutes
import AtomicArbitrage.Program.Machine
import AtomicArbitrage.Program.MachineRefinement
import AtomicArbitrage.Program.NoPanic
import AtomicArbitrage.Program.Orchestrate
import AtomicArbitrage.Program.Pricing
import AtomicArbitrage.Program.Sections
import AtomicArbitrage.Program.Settlement
import AtomicArbitrage.Program.SlippageGuard
import AtomicArbitrage.Program.TradedAccounts
import AtomicArbitrage.Client.Constants
import AtomicArbitrage.Client.DirectSwaps
import AtomicArbitrage.Client.Dlmm
import AtomicArbitrage.Client.GenericRoute
import AtomicArbitrage.Client.LegacyRoute
import AtomicArbitrage.Client.PumpSwap
import AtomicArbitrage.Client.TokenPrograms
import AtomicArbitrage.Agreement.BuiltRoutes
import AtomicArbitrage.Agreement.DlmmPricing
import AtomicArbitrage.Agreement.EndToEnd
import AtomicArbitrage.Agreement.Forwarding
import AtomicArbitrage.Agreement.Layout
import AtomicArbitrage.Agreement.LegacyRefinement
import AtomicArbitrage.Agreement.Pricing
import AtomicArbitrage.Agreement.Signers
import AtomicArbitrage.Agreement.Wire
import AtomicArbitrage.Agreement.ZeroSlippage
import AtomicArbitrage.Solana.Account
import AtomicArbitrage.Solana.Base58
import AtomicArbitrage.Solana.Pubkey
import AtomicArbitrage.Bot.Message
import AtomicArbitrage.Bot.TipInjection
import AtomicArbitrage.Bot.Confirmation
import AtomicArbitrage.Bot.CacheEntry
import AtomicArbitrage.Bot.Risk
import AtomicArbitrage.Bot.InFlight
import AtomicArbitrage.Bot.GeyserCache
import AtomicArbitrage.Bot.Freshness
import AtomicArbitrage.Bot.MintOrder
import AtomicArbitrage.Bot.CpmmCache
import AtomicArbitrage.Bot.AccountReaders
import AtomicArbitrage.Bot.Backscan
import AtomicArbitrage.Bot.BinArrays
import AtomicArbitrage.Bot.BinWindow
import AtomicArbitrage.Bot.Bookings
import AtomicArbitrage.Bot.BuilderPricing
import AtomicArbitrage.Bot.CpmmFetch
import AtomicArbitrage.Bot.DirectBuilders
import AtomicArbitrage.Bot.DlmmAnswers
import AtomicArbitrage.Bot.DlmmDiscovery
import AtomicArbitrage.Bot.DlmmEstimate
import AtomicArbitrage.Bot.DlmmSale
import AtomicArbitrage.Bot.EventLoop
import AtomicArbitrage.Bot.Extract
import AtomicArbitrage.Bot.Failover
import AtomicArbitrage.Bot.FeePipeline
import AtomicArbitrage.Bot.GrpcReplay
import AtomicArbitrage.Bot.InvestmentSizing
import AtomicArbitrage.Bot.JitoLimiter
import AtomicArbitrage.Bot.LbPairCache
import AtomicArbitrage.Bot.Listener
import AtomicArbitrage.Bot.LookupTables
import AtomicArbitrage.Bot.MintCandidates
import AtomicArbitrage.Bot.OnchainBuilders
import AtomicArbitrage.Bot.PoolLookup
import AtomicArbitrage.Bot.PoolStore
import AtomicArbitrage.Bot.ProfitEstimate
import AtomicArbitrage.Bot.PumpAddresses
import AtomicArbitrage.Bot.PumpPools
import AtomicArbitrage.Bot.PumpPrices
import AtomicArbitrage.Bot.Rpc
import AtomicArbitrage.Bot.Scan
import AtomicArbitrage.Bot.StalePairs
import AtomicArbitrage.Bot.Submissions
import AtomicArbitrage.Bot.SwapEstimate
import AtomicArbitrage.Bot.TickArrays
import AtomicArbitrage.Bot.Trades
import AtomicArbitrage.Bot.WhirlpoolDecode
import AtomicArbitrage.Bot.Whitelist
import AtomicArbitrage.Bot.WrapAmount
import AtomicArbitrage.Bot.WrapGuard

import AtomicArbitrage.Bot.DirectBuilders
import AtomicArbitrage.Bot.DlmmSale
import AtomicArbitrage.Bot.FeePipeline
import AtomicArbitrage.Bot.PoolLookup
import AtomicArbitrage.Bot.TickArrays
import AtomicArbitrage.Bot.WrapGuard
import AtomicArbitrage.Client.LegacyRoute

/-!
# Builders for the on-chain program

Twelve builders, one for each ordered pair of exchanges, end in one instruction for the
on-chain program.  Each has its own way to cap the investment, to price the two legs and to
give up.  What they return has this in common: the sale is priced for the least that the
purchase may yield, and what it is expected to bring pays for the investment, for the compute
units and for the profit of the configuration.  Amounts in floating point are read as exact
rationals.
-/

namespace AtomicArbitrage.Bot

open Client Outcome
open Program (DexKind)

/-! ## What the builders are given -/

/-- What a builder is given, and what it finds in the caches and fetches. -/
structure OnchainTrade extends DlmmSale where
  walletPubkey : Pubkey
  memeMint : Pubkey
  memeTokenProgram : Pubkey
  onchainProgramId : String
  pool : Option Pubkey
  fetchMetaAndReserves : Pubkey → Option (PumpSwapPoolMeta × UInt64 × UInt64)
  whirlpool : Option WhirlpoolReserves
  cpmm : Option PoolStateData

/-- The compute budget, the token account, the lookup table, the message and its signature
around the instruction of a builder. -/
abbrev Wrap := Instruction → Option (List UInt8)

/-- `cpmm_section_data`. -/
def cpmmSectionData (poolState : PoolStateData) : ClientResult CpmmSectionData := do
  let pool ← parsePubkey poolState.poolPubkey
  let config := (Pubkey.fromStr? poolState.configPubkey).getD (.ofLiteral cpmmAmmConfig)
  pure { pool, config }

/-- `wp_sol` and `wp_meme`. -/
def WhirlpoolReserves.sides (wp : WhirlpoolReserves) : UInt64 × UInt64 :=
  if wp.tokenXMint = nativeSolMint then (wp.reserveX, wp.reserveY)
  else (wp.reserveY, wp.reserveX)

namespace OnchainTrade

variable (o : OnchainTrade)

/-! ## Purchases -/

/-- A third of the reserves, unless there are none: `max_investment`. -/
def capAtThird (reserve : UInt64) : UInt64 :=
  let maxInvestment := reserve / 3
  if reserve > 0 ∧ o.investmentLamports > maxInvestment then maxInvestment
  else o.investmentLamports

/-- The purchase on PumpSwap, of at most a third of the reserves, or one lamport. -/
def pumpPurchase (freshSolRes freshTokRes : UInt64) : BuildResult BuyLeg := do
  let investmentLamports := min o.investmentLamports (max (freshSolRes / 3) 1)
  let memeOutEst ← orFail (checkedPumpswapBuyOutput investmentLamports freshSolRes freshTokRes
    o.config.pumpswapFeeBps) .overflow
  pure (buyLeg o.config investmentLamports freshSolRes memeOutEst)

/-- The purchase of `build_onchain_whirlpool_to_cpmm_tx`, of at most a third of the
reserves. -/
def whirlpoolPurchase (wp : WhirlpoolReserves) : BuildResult BuyLeg := do
  let investmentLamports := o.capAtThird wp.sides.1
  let memeOutEst ← orFail (checkedCpSwapOutput wp.sides.1 wp.sides.2 investmentLamports
    (.ofNat wp.feeRate)) .overflow
  pure (buyLeg o.config investmentLamports wp.sides.1 memeOutEst)

/-- The purchase on DLMM. -/
def dlmmPurchase (dlmm : CachedDlmm) (freshBins : List DlmmBin) (investmentLamports : UInt64) :
    BuildResult BuyLeg :=
  let dlmmFeeRate : ℚ := o.opp.dlmmFeeBps.toNat / 10000
  let dlmmEst := estimateDlmmSwapOutputFull freshBins investmentLamports dlmm.solIsX dlmmFeeRate
  if dlmmEst.out = 0 then .error .noEstimate
  else .ok (buyLeg o.config investmentLamports dlmm.reserves.1 dlmmEst.out)

/-! ## Sales -/

def pumpSale (freshSolRes freshTokRes amount : UInt64) : BuildResult UInt64 :=
  orFail (checkedPumpswapSellOutput amount freshTokRes freshSolRes o.config.pumpswapFeeBps)
    .overflow

def whirlpoolSale (wp : WhirlpoolReserves) (amount : UInt64) : BuildResult UInt64 :=
  orFail (checkedCpSwapOutput wp.sides.2 wp.sides.1 amount (.ofNat wp.feeRate)) .overflow

def cpmmSale (cpmm : PoolStateData) (amount : UInt64) : BuildResult UInt64 :=
  orFail (checkedCpSwapOutput (cpmmSides nativeSolMint cpmm).2 (cpmmSides nativeSolMint cpmm).1
    amount cpmmDefaultTradeFeeRate) .overflow

/-! ## Instructions -/

section

variable (pda : FindProgramAddress) (wrap : Wrap)

/-- `user_sol_ata`. -/
def userSolAta : Pubkey :=
  ataAddr pda o.walletPubkey (.ofLiteral nativeSolMint) (.ofLiteral tokenProgram)

/-- `user_meme_ata`, for the token program of the mint. -/
def userMemeAta : Pubkey := ataAddr pda o.walletPubkey o.memeMint o.memeTokenProgram

/-- The section of an exchange, from what the builder has found. -/
def resolve : DexKind → Option Section
  | .pumpSwap => do
      let pool ← o.pool
      let (poolMeta, _) ← o.fetchMetaAndReserves pool
      pure (.pumpSwap (pumpswapSectionData poolMeta pool))
  | .dlmm => do
      let dlmm ← o.dlmm
      let d ← (dlmmSectionData pda dlmm.toDlmmPoolReserves o.memeTokenProgram).toOption
      pure (.dlmm d)
  | .cpmm => do
      let cpmm ← o.cpmm
      let d ← (cpmmSectionData cpmm).toOption
      pure (.cpmm d)
  | .whirlpool => do
      let wp ← o.whirlpool
      let d ← (whirlpoolSectionData pda wp).toOption
      pure (.whirlpool d)

/-- What a generic builder passes to `build_generic_route`: any positive profit will do. -/
def genericArgs (buySolIsX : Bool) (leg : BuyLeg) : GenericArgs where
  walletPubkey := o.walletPubkey
  userSolAta := o.userSolAta pda
  userMemeAta := o.userMemeAta pda
  memeMint := o.memeMint
  solMint := .ofLiteral nativeSolMint
  investmentLamports := leg.investmentLamports
  minMemeOut := leg.minMemeOut
  minProfitLamports := 1
  buySolIsX := buySolIsX
  memeTokenProgram := o.memeTokenProgram
  solTokenProgram := .ofLiteral tokenProgram
  onchainProgramId := o.onchainProgramId

/-- The rest of a generic builder. -/
def route (buySolIsX : Bool) (buy sell : DexKind) : Assemble := fun leg => do
  let buyData ← o.resolve pda buy
  let sellData ← o.resolve pda sell
  let arbIx ← (buildRoute pda (o.genericArgs pda buySolIsX leg) buyData sellData).toOption
  wrap arbIx

/-- What a legacy builder passes to the builder of its route. -/
def legacyArgs (dlmm : CachedDlmm) (poolMeta : PumpSwapPoolMeta) (pool : Pubkey)
    (minMemeOut : UInt64) (leg : BuyLeg) : LegacyArgs where
  walletPubkey := o.walletPubkey
  userSolAta := o.userSolAta pda
  userMemeAta := o.userMemeAta pda
  memeMint := o.memeMint
  investmentLamports := leg.investmentLamports
  minMemeOut := minMemeOut
  minProfitLamports := 1
  dlmm := dlmm.toDlmmPoolReserves
  poolMeta := poolMeta
  pool := pool
  memeTokenProgram := o.memeTokenProgram
  onchainProgramId := o.onchainProgramId
  lastValidBlockHeight := 0

/-- The rest of `build_onchain_pump_to_dlmm_tx`. -/
def pumpToDlmmRoute : Assemble := fun leg => do
  let pool ← o.pool
  let dlmm ← o.dlmm
  let (poolMeta, _) ← o.fetchMetaAndReserves pool
  let (arbIx, _) ← (buildRoutePumpToDlmm pda
    (o.legacyArgs pda dlmm poolMeta pool leg.minMemeOut leg)).toOption
  wrap arbIx

/-- The rest of `build_onchain_dlmm_to_pump_tx`, which asks for one lamport of the sale. -/
def dlmmToPumpRoute : Assemble := fun leg => do
  let pool ← o.pool
  let dlmm ← o.dlmm
  let (poolMeta, _) ← o.fetchMetaAndReserves pool
  let minSolOut := 1
  let (arbIx, _) ← (buildRouteDlmmToPump pda
    (o.legacyArgs pda dlmm poolMeta pool minSolOut leg)).toOption
  wrap arbIx

/-! ## The builders -/

/-- `build_onchain_pump_to_dlmm_tx`, with its instruction. -/
def buildOnchainPumpToDlmm : BuildResult BuiltTx :=
  o.buildOnchainPumpToDlmmTx o.pool (fun pool => (o.fetchMetaAndReserves pool).map Prod.snd)
    (o.pumpToDlmmRoute pda wrap)

/-- `build_onchain_dlmm_to_pump_tx`. -/
def buildOnchainDlmmToPumpTx : BuildResult BuiltTx := do
  let pool ← orFail o.pool .poolNotFound
  let dlmm ← orFail o.dlmm .notCached
  let (_, freshSolRes, freshTokRes) ← orFail (o.fetchMetaAndReserves pool) .fetchFailed
  let freshBins ← orFail o.freshBins .fetchFailed
  let leg ← o.dlmmPurchase dlmm freshBins (o.capAtThird freshSolRes)
  let solOutEst ← o.pumpSale freshSolRes freshTokRes leg.minMemeOut
  let safetyFloor := o.opp.netProfitSol * (1 / 2)
  testProfit o.opp o.config solOutEst
  require (¬freshNet o.opp o.config solOutEst < safetyFloor)
    (.rejected (freshNet o.opp o.config solOutEst))
  let txBytes ← orFail (o.dlmmToPumpRoute pda wrap leg) .notAssembled
  pure { txBytes, memeOutEst := leg.memeOutEst, solOutEst }

/-- `build_onchain_cpmm_to_whirlpool_tx`. -/
def buildOnchainCpmmToWhirlpoolTx : BuildResult BuiltTx := do
  let cpmmState ← orFail o.cpmm .notCached
  let wpReserves ← orFail o.whirlpool .notCached
  let leg ← cpmmBuyLeg o.config o.investmentLamports cpmmState
  let solOutEst ← whirlpoolSale wpReserves leg.minMemeOut
  o.finish (o.route pda wrap true .cpmm .whirlpool) leg solOutEst

/-- `build_onchain_whirlpool_to_cpmm_tx`. -/
def buildOnchainWhirlpoolToCpmmTx : BuildResult BuiltTx := do
  let cpmmState ← orFail o.cpmm .notCached
  let wpReserves ← orFail o.whirlpool .notCached
  let leg ← o.whirlpoolPurchase wpReserves
  let solOutEst ← cpmmSale cpmmState leg.minMemeOut
  o.finish (o.route pda wrap true .whirlpool .cpmm) leg solOutEst

/-- `build_onchain_pump_to_cpmm_tx`. -/
def buildOnchainPumpToCpmmTx : BuildResult BuiltTx := do
  let pool ← orFail o.pool .poolNotFound
  let (_, freshSolRes, freshTokRes) ← orFail (o.fetchMetaAndReserves pool) .fetchFailed
  let cpmmState ← orFail o.cpmm .notCached
  let leg ← o.pumpPurchase freshSolRes freshTokRes
  let solOutEst ← cpmmSale cpmmState leg.minMemeOut
  o.finish (o.route pda wrap true .pumpSwap .cpmm) leg solOutEst

/-- `build_onchain_cpmm_to_pump_tx`. -/
def buildOnchainCpmmToPumpTx : BuildResult BuiltTx := do
  let cpmmState ← orFail o.cpmm .notCached
  let pool ← orFail o.pool .poolNotFound
  let (_, freshSolRes, freshTokRes) ← orFail (o.fetchMetaAndReserves pool) .fetchFailed
  let leg ← cpmmBuyLeg o.config o.investmentLamports cpmmState
  let solOutEst ← o.pumpSale freshSolRes freshTokRes leg.minMemeOut
  o.finish (o.route pda wrap true .cpmm .pumpSwap) leg solOutEst

/-- `build_onchain_dlmm_to_whirlpool_tx`. -/
def buildOnchainDlmmToWhirlpoolTx : BuildResult BuiltTx := do
  let dlmm ← orFail o.dlmm .notCached
  let wpReserves ← orFail o.whirlpool .notCached
  let freshBins ← orFail o.freshBins .fetchFailed
  let leg ← o.dlmmPurchase dlmm freshBins o.investmentLamports
  let solOutEst ← whirlpoolSale wpReserves leg.minMemeOut
  o.finish (o.route pda wrap dlmm.solIsX .dlmm .whirlpool) leg solOutEst

/-- `build_onchain_whirlpool_to_dlmm_tx`, with its instruction. -/
def buildOnchainWhirlpoolToDlmm : BuildResult BuiltTx :=
  o.buildOnchainWhirlpoolToDlmmTx o.whirlpool (o.route pda wrap true .whirlpool .dlmm)

/-- `build_onchain_pump_to_whirlpool_tx`. -/
def buildOnchainPumpToWhirlpoolTx : BuildResult BuiltTx := do
  let pool ← orFail o.pool .poolNotFound
  let (_, freshSol, freshTok) ← orFail (o.fetchMetaAndReserves pool) .fetchFailed
  let wp ← orFail o.whirlpool .notCached
  let leg ← o.pumpPurchase freshSol freshTok
  let solOut ← whirlpoolSale wp leg.minMemeOut
  o.finish (o.route pda wrap true .pumpSwap .whirlpool) leg solOut

/-- `build_onchain_whirlpool_to_pump_tx`. -/
def buildOnchainWhirlpoolToPumpTx : BuildResult BuiltTx := do
  let wp ← orFail o.whirlpool .notCached
  let pool ← orFail o.pool .poolNotFound
  let (_, freshSol, freshTok) ← orFail (o.fetchMetaAndReserves pool) .fetchFailed
  let leg ← whirlpoolBuyLeg o.config o.investmentLamports wp
  let solOut ← o.pumpSale freshSol freshTok leg.minMemeOut
  o.finish (o.route pda wrap true .whirlpool .pumpSwap) leg solOut

/-- `build_onchain_cpmm_to_dlmm_tx`, with its instruction. -/
def buildOnchainCpmmToDlmm : BuildResult BuiltTx :=
  o.buildOnchainCpmmToDlmmTx o.cpmm (o.route pda wrap true .cpmm .dlmm)

/-- `build_onchain_dlmm_to_cpmm_tx`. -/
def buildOnchainDlmmToCpmmTx : BuildResult BuiltTx := do
  let dlmm ← orFail o.dlmm .notCached
  let cpmm ← orFail o.cpmm .notCached
  let freshBins ← orFail o.freshBins .fetchFailed
  let leg ← o.dlmmPurchase dlmm freshBins o.investmentLamports
  let solOut ← cpmmSale cpmm leg.minMemeOut
  o.finish (o.route pda wrap dlmm.solIsX .dlmm .cpmm) leg solOut

end

end OnchainTrade

/-- The twelve builders. -/
inductive OnchainBuilder where
  | pumpToDlmm
  | dlmmToPump
  | cpmmToWhirlpool
  | whirlpoolToCpmm
  | pumpToCpmm
  | cpmmToPump
  | dlmmToWhirlpool
  | whirlpoolToDlmm
  | pumpToWhirlpool
  | whirlpoolToPump
  | cpmmToDlmm
  | dlmmToCpmm
deriving DecidableEq

namespace OnchainBuilder

/-- The exchanges that a builder is for, that of the purchase first. -/
def exchanges : OnchainBuilder → DexKind × DexKind
  | pumpToDlmm => (.pumpSwap, .dlmm)
  | dlmmToPump => (.dlmm, .pumpSwap)
  | cpmmToWhirlpool => (.cpmm, .whirlpool)
  | whirlpoolToCpmm => (.whirlpool, .cpmm)
  | pumpToCpmm => (.pumpSwap, .cpmm)
  | cpmmToPump => (.cpmm, .pumpSwap)
  | dlmmToWhirlpool => (.dlmm, .whirlpool)
  | whirlpoolToDlmm => (.whirlpool, .dlmm)
  | pumpToWhirlpool => (.pumpSwap, .whirlpool)
  | whirlpoolToPump => (.whirlpool, .pumpSwap)
  | cpmmToDlmm => (.cpmm, .dlmm)
  | dlmmToCpmm => (.dlmm, .cpmm)

def build (pda : FindProgramAddress) (wrap : Wrap) (o : OnchainTrade) :
    OnchainBuilder → BuildResult BuiltTx
  | pumpToDlmm => o.buildOnchainPumpToDlmm pda wrap
  | dlmmToPump => o.buildOnchainDlmmToPumpTx pda wrap
  | cpmmToWhirlpool => o.buildOnchainCpmmToWhirlpoolTx pda wrap
  | whirlpoolToCpmm => o.buildOnchainWhirlpoolToCpmmTx pda wrap
  | pumpToCpmm => o.buildOnchainPumpToCpmmTx pda wrap
  | cpmmToPump => o.buildOnchainCpmmToPumpTx pda wrap
  | dlmmToWhirlpool => o.buildOnchainDlmmToWhirlpoolTx pda wrap
  | whirlpoolToDlmm => o.buildOnchainWhirlpoolToDlmm pda wrap
  | pumpToWhirlpool => o.buildOnchainPumpToWhirlpoolTx pda wrap
  | whirlpoolToPump => o.buildOnchainWhirlpoolToPumpTx pda wrap
  | cpmmToDlmm => o.buildOnchainCpmmToDlmm pda wrap
  | dlmmToCpmm => o.buildOnchainDlmmToCpmmTx pda wrap

end OnchainBuilder

/-! ## The choice of a builder -/

/-- What the choice reads of the configuration. -/
structure ExecutionRouting where
  useOnchainProgram : Bool
  onchainArbAlt : Option String
  onchainTrafficPct : UInt32

/-- `should_use_onchain_program`. -/
def shouldUseOnchainProgram (tokenMint : String) (routing : ExecutionRouting) : Bool :=
  if !routing.useOnchainProgram then false
  else if routing.onchainArbAlt.isNone then false
  else
    let pct := routing.onchainTrafficPct
    if pct = 0 then false
    else if pct ≥ 100 then true
    else
      let byte := tokenMint.toUTF8.data.toList.headD 0
      byte.toUInt64 % 100 < pct.toUInt64

/-- A builder of `build_atomic_arbitrage_tx`. -/
inductive AtomicBuilder where
  | onchain (builder : OnchainBuilder)
  | direct (builder : DirectBuilder)

/-- The choice of `build_atomic_arbitrage_tx`. -/
def selectBuilder (tokenMint : String) (routing : ExecutionRouting) :
    Venue → Venue → Option AtomicBuilder
  | .pumpSwapAmm, .meteoraDlmm =>
      if shouldUseOnchainProgram tokenMint routing then some (.onchain .pumpToDlmm)
      else some (.direct .pumpswapBuyDlmmSell)
  | .meteoraDlmm, .pumpSwapAmm =>
      if shouldUseOnchainProgram tokenMint routing then some (.onchain .dlmmToPump)
      else some (.direct .dlmmBuyPumpswapSell)
  | .raydiumCpmm, .orcaWhirlpool => some (.onchain .cpmmToWhirlpool)
  | .orcaWhirlpool, .raydiumCpmm => some (.onchain .whirlpoolToCpmm)
  | .pumpSwapAmm, .raydiumCpmm => some (.onchain .pumpToCpmm)
  | .raydiumCpmm, .pumpSwapAmm => some (.onchain .cpmmToPump)
  | .meteoraDlmm, .orcaWhirlpool => some (.onchain .dlmmToWhirlpool)
  | .orcaWhirlpool, .meteoraDlmm => some (.onchain .whirlpoolToDlmm)
  | .pumpSwapAmm, .orcaWhirlpool => some (.onchain .pumpToWhirlpool)
  | .orcaWhirlpool, .pumpSwapAmm => some (.onchain .whirlpoolToPump)
  | .raydiumCpmm, .meteoraDlmm => some (.onchain .cpmmToDlmm)
  | .meteoraDlmm, .raydiumCpmm => some (.onchain .dlmmToCpmm)
  | _, _ => none

/-- The exchange of a venue that the on-chain program knows. -/
def Venue.kind? : Venue → Option DexKind
  | pumpSwapAmm => some .pumpSwap
  | meteoraDlmm => some .dlmm
  | raydiumAmmv4 => none
  | raydiumCpmm => some .cpmm
  | orcaWhirlpool => some .whirlpool

/-- An on-chain builder is chosen for its own exchanges. -/
theorem exchanges_of_selectBuilder {tokenMint : String} {routing : ExecutionRouting}
    {buyVenue sellVenue : Venue} {builder : OnchainBuilder}
    (selected : selectBuilder tokenMint routing buyVenue sellVenue = some (.onchain builder)) :
    buyVenue.kind? = some builder.exchanges.1 ∧ sellVenue.kind? = some builder.exchanges.2 := by
  unfold selectBuilder at selected
  split at selected
  case h_1 | h_2 =>
    split at selected
    · cases selected
      exact ⟨rfl, rfl⟩
    · cases selected
  all_goals cases selected
  all_goals exact ⟨rfl, rfl⟩

/-! ## Purchases and sales of nothing -/

section

variable {config : BuilderConfig} {investmentLamports reserveIn memeOutEst : UInt64}

theorem minAmountOut_le {amountIn : UInt64} {baseToleranceBps : UInt32} (estimate : UInt64) :
    minAmountOut estimate (computeEffectiveSlippage amountIn reserveIn baseToleranceBps) ≤
      estimate := by
  by_cases strict : baseToleranceBps = 0
  · rw [strict, computeEffectiveSlippage_of_zero, minAmountOut_one]
    exact UInt64.le_refl estimate
  · by_cases nothing : estimate = 0
    · rw [nothing, minAmountOut_zero]
      exact UInt64.le_refl 0
    · exact UInt64.le_of_lt (minAmountOut_lt nothing (computeEffectiveSlippage_lt_one strict))

theorem checkedEstimateSwapOutput_zero (ri ro : UInt64) (feeBps : UInt32) :
    checkedEstimateSwapOutput ri ro 0 feeBps = some 0 := by
  simp [checkedEstimateSwapOutput, checkedEstimateSwapOutput128]

theorem checkedCpSwapOutput_zero (ri ro feeRate : UInt64) :
    checkedCpSwapOutput ri ro 0 feeRate = some 0 := by
  rw [checkedCpSwapOutput, checkedCpSwapOutput128_nothing (.inl rfl)]
  rfl

theorem estimateDlmmSwapOutputFull_zero (bins : List DlmmBin) (isXToY : Bool) (fee : ℚ) :
    (estimateDlmmSwapOutputFull bins 0 isXToY fee).out = 0 := by
  simp only [estimateDlmmSwapOutputFull]
  rw [if_pos (.inr (by rw [UInt64.toNat_zero, ArbitrageScanner.afterFee_zero, Nat.zero_mod]))]

/-- A purchase of at most an investment: the tolerance is taken off, and nothing yields
nothing. -/
structure BuyLeg.Sound (leg : BuyLeg) (investmentLamports : UInt64) : Prop where
  capped : leg.investmentLamports ≤ investmentLamports
  cut : leg.minMemeOut ≤ leg.memeOutEst
  nothing : leg.investmentLamports = 0 → leg.minMemeOut = 0

theorem buyLeg_sound {invested : UInt64} (capped : invested ≤ investmentLamports)
    (nothing : invested = 0 → memeOutEst = 0) :
    (buyLeg config invested reserveIn memeOutEst).Sound investmentLamports where
  capped := capped
  cut := minAmountOut_le memeOutEst
  nothing zero := by
    rw [buyLeg, nothing zero]
    exact minAmountOut_zero _

end

section

variable {o : OnchainTrade} {leg : BuyLeg}

theorem capAtThird_le (reserve : UInt64) : o.capAtThird reserve ≤ o.investmentLamports := by
  simp only [OnchainTrade.capAtThird]
  split
  · next above => exact UInt64.le_of_lt above.2
  · exact UInt64.le_refl _

theorem pumpBuyLeg_sound {freshSolRes freshTokRes : UInt64}
    (bought : pumpBuyLeg o.config o.investmentLamports freshSolRes freshTokRes = .ok leg) :
    leg.Sound o.investmentLamports := by
  simp only [pumpBuyLeg, bind_eq_ok, orFail_eq_ok, pure_eq_ok] at bought
  obtain ⟨memeOutEst, priced, rfl⟩ := bought
  refine buyLeg_sound (capAtThird_le (o := o) freshSolRes) fun zero => ?_
  rw [zero, checkedPumpswapBuyOutput, checkedEstimateSwapOutput_zero] at priced
  exact (Option.some_inj.mp priced).symm

theorem pumpPurchase_sound {freshSolRes freshTokRes : UInt64}
    (bought : o.pumpPurchase freshSolRes freshTokRes = .ok leg) :
    leg.Sound o.investmentLamports := by
  simp only [OnchainTrade.pumpPurchase, bind_eq_ok, orFail_eq_ok, pure_eq_ok] at bought
  obtain ⟨memeOutEst, priced, rfl⟩ := bought
  refine buyLeg_sound Std.min_le_left fun zero => ?_
  rw [zero, checkedPumpswapBuyOutput, checkedEstimateSwapOutput_zero] at priced
  exact (Option.some_inj.mp priced).symm

theorem whirlpoolBuyLeg_sound {wp : WhirlpoolReserves}
    (bought : whirlpoolBuyLeg o.config o.investmentLamports wp = .ok leg) :
    leg.Sound o.investmentLamports := by
  simp only [whirlpoolBuyLeg, bind_eq_ok, orFail_eq_ok, pure_eq_ok] at bought
  obtain ⟨memeOutEst, priced, rfl⟩ := bought
  refine buyLeg_sound Std.min_le_left fun zero => ?_
  rw [zero, checkedCpSwapOutput_zero] at priced
  exact (Option.some_inj.mp priced).symm

theorem whirlpoolPurchase_sound {wp : WhirlpoolReserves}
    (bought : o.whirlpoolPurchase wp = .ok leg) : leg.Sound o.investmentLamports := by
  simp only [OnchainTrade.whirlpoolPurchase, bind_eq_ok, orFail_eq_ok, pure_eq_ok] at bought
  obtain ⟨memeOutEst, priced, rfl⟩ := bought
  refine buyLeg_sound (capAtThird_le _) fun zero => ?_
  rw [zero, checkedCpSwapOutput_zero] at priced
  exact (Option.some_inj.mp priced).symm

theorem cpmmBuyLeg_sound {cpmm : PoolStateData}
    (bought : cpmmBuyLeg o.config o.investmentLamports cpmm = .ok leg) :
    leg.Sound o.investmentLamports := by
  simp only [cpmmBuyLeg, bind_eq_ok, orFail_eq_ok, pure_eq_ok] at bought
  obtain ⟨memeOutEst, priced, rfl⟩ := bought
  refine buyLeg_sound (UInt64.le_refl _) fun zero => ?_
  rw [zero, checkedCpSwapOutput_zero] at priced
  exact (Option.some_inj.mp priced).symm

theorem dlmmPurchase_sound {dlmm : CachedDlmm} {freshBins : List DlmmBin} {invested : UInt64}
    (capped : invested ≤ o.investmentLamports)
    (bought : o.dlmmPurchase dlmm freshBins invested = .ok leg) :
    leg.Sound o.investmentLamports := by
  simp only [OnchainTrade.dlmmPurchase] at bought
  split at bought
  · cases bought
  · next some =>
      cases bought
      refine buyLeg_sound capped fun zero => ?_
      rw [zero]
      exact estimateDlmmSwapOutputFull_zero _ _ _

variable {solOutEst : UInt64}

theorem pumpSale_zero {freshSolRes freshTokRes : UInt64}
    (sold : o.pumpSale freshSolRes freshTokRes leg.minMemeOut = .ok solOutEst)
    (nothing : leg.minMemeOut = 0) : solOutEst = 0 := by
  rw [nothing, OnchainTrade.pumpSale, checkedPumpswapSellOutput, checkedEstimateSwapOutput_zero,
    orFail_some] at sold
  exact (Except.ok.inj sold).symm

theorem whirlpoolSale_zero {wp : WhirlpoolReserves}
    (sold : OnchainTrade.whirlpoolSale wp leg.minMemeOut = .ok solOutEst)
    (nothing : leg.minMemeOut = 0) : solOutEst = 0 := by
  rw [nothing, OnchainTrade.whirlpoolSale, checkedCpSwapOutput_zero, orFail_some] at sold
  exact (Except.ok.inj sold).symm

theorem cpmmSale_zero {cpmm : PoolStateData}
    (sold : OnchainTrade.cpmmSale cpmm leg.minMemeOut = .ok solOutEst)
    (nothing : leg.minMemeOut = 0) : solOutEst = 0 := by
  rw [nothing, OnchainTrade.cpmmSale, checkedCpSwapOutput_zero, orFail_some] at sold
  exact (Except.ok.inj sold).symm

theorem dlmmSale_zero (t : DlmmSale) (dlmm : CachedDlmm) (freshBins : List DlmmBin)
    (nothing : leg.minMemeOut = 0) : (t.estimate dlmm freshBins leg.minMemeOut).out = 0 := by
  rw [nothing]
  exact estimateDlmmSwapOutputFull_zero _ _ _

end

/-! ## What a builder returns -/

/-- The legs behind a transaction: the purchase is sound, a sale of nothing brings nothing,
and the profit has been tested. -/
structure Priced (o : OnchainTrade) (tx : BuiltTx) (leg : BuyLeg) : Prop where
  sound : leg.Sound o.investmentLamports
  reported : tx.memeOutEst = leg.memeOutEst
  nothing : leg.minMemeOut = 0 → tx.solOutEst = 0
  tested : ¬freshNet o.opp o.config tx.solOutEst < o.config.minProfitThresholdSol

/-- The rest of a builder, by its exchanges. -/
def OnchainBuilder.Assembles (pda : FindProgramAddress) (wrap : Wrap) (o : OnchainTrade)
    (leg : BuyLeg) (txBytes : List UInt8) : OnchainBuilder → Prop
  | pumpToDlmm => o.pumpToDlmmRoute pda wrap leg = some txBytes
  | dlmmToPump => o.dlmmToPumpRoute pda wrap leg = some txBytes
  | builder => ∃ buySolIsX,
      o.route pda wrap buySolIsX builder.exchanges.1 builder.exchanges.2 leg = some txBytes

section

variable {pda : FindProgramAddress} {wrap : Wrap} {o : OnchainTrade} {tx : BuiltTx}
  {leg : BuyLeg} {solOutEst : UInt64}

/-- The last step of a builder. -/
theorem finish_spec {assemble : Assemble} (sound : leg.Sound o.investmentLamports)
    (nothing : leg.minMemeOut = 0 → solOutEst = 0)
    (finished : o.finish assemble leg solOutEst = .ok tx) :
    Priced o tx leg ∧ assemble leg = some tx.txBytes := by
  simp only [DlmmSale.finish, testProfit, bind_eq_ok, require_eq_ok, orFail_eq_ok, pure_eq_ok]
    at finished
  obtain ⟨_, tested, txBytes, assembled, rfl⟩ := finished
  exact ⟨⟨sound, rfl, nothing, tested⟩, assembled⟩

/-- Half of no tokens, or what the bins yield for none of them, is nothing. -/
theorem halfOrEstimate_zero {out : UInt64} (nothing : leg.minMemeOut = 0) (empty : out = 0) :
    (if out = 0 then leg.minMemeOut / 2 else out) = 0 := by
  rw [if_pos empty, nothing]
  rfl

/-- Whatever the builder and whatever it finds, a transaction comes with its legs and their
route. -/
theorem OnchainBuilder.build_spec {builder : OnchainBuilder}
    (built : builder.build pda wrap o = .ok tx) :
    ∃ leg, Priced o tx leg ∧ builder.Assembles pda wrap o leg tx.txBytes := by
  cases builder with
  | pumpToDlmm =>
      simp only [build, OnchainTrade.buildOnchainPumpToDlmm, DlmmSale.buildOnchainPumpToDlmmTx,
        bind_eq_ok, orFail_eq_ok] at built
      obtain ⟨pool, -, dlmm, -, reserves, -, freshBins, -, leg, bought, finished⟩ := built
      split at finished
      · cases finished
      · exact ⟨leg, finish_spec (pumpBuyLeg_sound bought) (dlmmSale_zero _ _ _) finished⟩
  | dlmmToPump =>
      simp only [build, OnchainTrade.buildOnchainDlmmToPumpTx, testProfit, bind_eq_ok,
        orFail_eq_ok, require_eq_ok, pure_eq_ok] at built
      obtain ⟨pool, -, dlmm, -, ⟨poolMeta, freshSolRes, freshTokRes⟩, -, freshBins, -, leg,
        bought, solOutEst, sold, _, tested, _, -, txBytes, assembled, rfl⟩ := built
      exact ⟨leg, ⟨dlmmPurchase_sound (capAtThird_le _) bought, rfl, pumpSale_zero sold, tested⟩,
        assembled⟩
  | cpmmToWhirlpool =>
      simp only [build, OnchainTrade.buildOnchainCpmmToWhirlpoolTx, bind_eq_ok, orFail_eq_ok]
        at built
      obtain ⟨cpmm, -, wp, -, leg, bought, solOutEst, sold, finished⟩ := built
      have spec := finish_spec (cpmmBuyLeg_sound bought) (whirlpoolSale_zero sold) finished
      exact ⟨leg, spec.1, _, spec.2⟩
  | whirlpoolToCpmm =>
      simp only [build, OnchainTrade.buildOnchainWhirlpoolToCpmmTx, bind_eq_ok, orFail_eq_ok]
        at built
      obtain ⟨cpmm, -, wp, -, leg, bought, solOutEst, sold, finished⟩ := built
      have spec := finish_spec (whirlpoolPurchase_sound bought) (cpmmSale_zero sold) finished
      exact ⟨leg, spec.1, _, spec.2⟩
  | pumpToCpmm =>
      simp only [build, OnchainTrade.buildOnchainPumpToCpmmTx, bind_eq_ok, orFail_eq_ok] at built
      obtain ⟨pool, -, ⟨poolMeta, freshSolRes, freshTokRes⟩, -, cpmm, -, leg, bought, solOutEst,
        sold, finished⟩ := built
      have spec := finish_spec (pumpPurchase_sound bought) (cpmmSale_zero sold) finished
      exact ⟨leg, spec.1, _, spec.2⟩
  | cpmmToPump =>
      simp only [build, OnchainTrade.buildOnchainCpmmToPumpTx, bind_eq_ok, orFail_eq_ok] at built
      obtain ⟨cpmm, -, pool, -, ⟨poolMeta, freshSolRes, freshTokRes⟩, -, leg, bought, solOutEst,
        sold, finished⟩ := built
      have spec := finish_spec (cpmmBuyLeg_sound bought) (pumpSale_zero sold) finished
      exact ⟨leg, spec.1, _, spec.2⟩
  | dlmmToWhirlpool =>
      simp only [build, OnchainTrade.buildOnchainDlmmToWhirlpoolTx, bind_eq_ok, orFail_eq_ok]
        at built
      obtain ⟨dlmm, -, wp, -, freshBins, -, leg, bought, solOutEst, sold, finished⟩ := built
      have spec := finish_spec (dlmmPurchase_sound (UInt64.le_refl _) bought)
        (whirlpoolSale_zero sold) finished
      exact ⟨leg, spec.1, _, spec.2⟩
  | whirlpoolToDlmm =>
      simp only [build, OnchainTrade.buildOnchainWhirlpoolToDlmm,
        DlmmSale.buildOnchainWhirlpoolToDlmmTx, bind_eq_ok, orFail_eq_ok] at built
      obtain ⟨wp, -, dlmm, -, leg, bought, freshBins, -, finished⟩ := built
      have spec := finish_spec (whirlpoolBuyLeg_sound bought)
        (fun nothing => halfOrEstimate_zero nothing (dlmmSale_zero _ _ _ nothing)) finished
      exact ⟨leg, spec.1, _, spec.2⟩
  | pumpToWhirlpool =>
      simp only [build, OnchainTrade.buildOnchainPumpToWhirlpoolTx, bind_eq_ok, orFail_eq_ok]
        at built
      obtain ⟨pool, -, ⟨poolMeta, freshSol, freshTok⟩, -, wp, -, leg, bought, solOut, sold,
        finished⟩ := built
      have spec := finish_spec (pumpPurchase_sound bought) (whirlpoolSale_zero sold) finished
      exact ⟨leg, spec.1, _, spec.2⟩
  | whirlpoolToPump =>
      simp only [build, OnchainTrade.buildOnchainWhirlpoolToPumpTx, bind_eq_ok, orFail_eq_ok]
        at built
      obtain ⟨wp, -, pool, -, ⟨poolMeta, freshSol, freshTok⟩, -, leg, bought, solOut, sold,
        finished⟩ := built
      have spec := finish_spec (whirlpoolBuyLeg_sound bought) (pumpSale_zero sold) finished
      exact ⟨leg, spec.1, _, spec.2⟩
  | cpmmToDlmm =>
      simp only [build, OnchainTrade.buildOnchainCpmmToDlmm, DlmmSale.buildOnchainCpmmToDlmmTx,
        bind_eq_ok, orFail_eq_ok] at built
      obtain ⟨cpmm, -, dlmm, -, leg, bought, freshBins, -, finished⟩ := built
      have spec := finish_spec (cpmmBuyLeg_sound bought)
        (fun nothing => halfOrEstimate_zero nothing (dlmmSale_zero _ _ _ nothing)) finished
      exact ⟨leg, spec.1, _, spec.2⟩
  | dlmmToCpmm =>
      simp only [build, OnchainTrade.buildOnchainDlmmToCpmmTx, bind_eq_ok, orFail_eq_ok] at built
      obtain ⟨dlmm, -, cpmm, -, freshBins, -, leg, bought, solOut, sold, finished⟩ := built
      have spec := finish_spec (dlmmPurchase_sound (UInt64.le_refl _) bought)
        (cpmmSale_zero sold) finished
      exact ⟨leg, spec.1, _, spec.2⟩

end

/-! ## What the estimates pay for -/

section

variable {o : OnchainTrade} {tx : BuiltTx} {leg : BuyLeg}

/-- With a threshold above nothing, neither leg of a transaction is for nothing. -/
theorem Priced.positive (priced : Priced o tx leg) (threshold : 0 < o.config.minProfitThresholdSol)
    (investment : 0 ≤ o.opp.investmentSol) :
    leg.investmentLamports ≠ 0 ∧ leg.minMemeOut ≠ 0 := by
  have demanded : leg.minMemeOut ≠ 0 := by
    intro nothing
    have tested := priced.tested
    rw [priced.nothing nothing] at tested
    exact tested (freshNet_zero_lt threshold investment)
  exact ⟨fun nothing => demanded (priced.sound.nothing nothing), demanded⟩

/-- An amount of SOL is at least as many lamports as it is converted to. -/
theorem solToLamports_le {sol : ℚ} (nonneg : 0 ≤ sol) :
    (solToLamports sol : ℚ) ≤ sol * 1000000000 := by
  have scaled : 0 ≤ sol * 1000000000 := mul_nonneg nonneg (by norm_num)
  simp only [solToLamports]
  rw [if_neg (not_lt.mpr scaled)]
  split
  · next above =>
      have largest : ((2 ^ 64 - 1 : ℕ) : ℚ) ≤ 2 ^ 64 := by norm_num
      exact largest.trans above.le
  · exact (Nat.cast_le.mpr (min_le_left _ _)).trans (Nat.floor_le scaled)

/-- What the sale is expected to bring pays for the lamports that are invested, for the
compute units and for the profit of the configuration. -/
theorem Priced.covered (priced : Priced o tx leg) (investment : 0 ≤ o.opp.investmentSol)
    (sized : o.investmentLamports = UInt64.ofNat (solToLamports o.opp.investmentSol)) :
    leg.investmentLamports.toNat +
        (computeCuCostSol o.config + o.config.minProfitThresholdSol) * 1000000000 ≤
      (tx.solOutEst.toNat : ℚ) := by
  have invested : leg.investmentLamports.toNat ≤ solToLamports o.opp.investmentSol := by
    have capped := UInt64.le_iff_toNat_le.mp priced.sound.capped
    rw [sized, UInt64.toNat_ofNat'] at capped
    exact capped.trans (Nat.mod_le _ _)
  have words : (leg.investmentLamports.toNat : ℚ) ≤ o.opp.investmentSol * 1000000000 :=
    (Nat.cast_le.mpr invested).trans (solToLamports_le investment)
  have tested := not_lt.mp priced.tested
  simp only [freshNet] at tested
  linarith

end

/-- Whatever the venues and whatever the caches and the chain hold: the transaction of an
on-chain builder invests and demands something, never more than the scanner's investment, and
the sale of the least that it demands is expected to pay for what is invested, for the compute
units and for the profit of the configuration. -/
theorem onchainTx_covered (pda : FindProgramAddress) (wrap : Wrap) (o : OnchainTrade)
    (tokenMint : String) (routing : ExecutionRouting) (buyVenue sellVenue : Venue)
    (builder : OnchainBuilder) (tx : BuiltTx)
    (threshold : 0 < o.config.minProfitThresholdSol) (investment : 0 ≤ o.opp.investmentSol)
    (sized : o.investmentLamports = UInt64.ofNat (solToLamports o.opp.investmentSol))
    (selected : selectBuilder tokenMint routing buyVenue sellVenue = some (.onchain builder))
    (built : builder.build pda wrap o = .ok tx) :
    buyVenue.kind? = some builder.exchanges.1 ∧ sellVenue.kind? = some builder.exchanges.2 ∧
      ∃ leg, builder.Assembles pda wrap o leg tx.txBytes ∧
        (leg.investmentLamports ≠ 0 ∧ leg.investmentLamports ≤ o.investmentLamports) ∧
        (leg.minMemeOut ≠ 0 ∧ leg.minMemeOut ≤ tx.memeOutEst) ∧
        leg.investmentLamports.toNat +
            (computeCuCostSol o.config + o.config.minProfitThresholdSol) * 1000000000 ≤
          (tx.solOutEst.toNat : ℚ) := by
  rcases exchanges_of_selectBuilder selected with ⟨buys, sells⟩
  rcases builder.build_spec built with ⟨leg, priced, assembled⟩
  rcases priced.positive threshold investment with ⟨invests, demands⟩
  exact ⟨buys, sells, leg, assembled, ⟨invests, priced.sound.capped⟩,
    ⟨demands, priced.reported ▸ priced.sound.cut⟩, priced.covered investment sized⟩

/-- A purchase on PumpSwap at half the price of a CPMM pool. -/
def sampleOnchainTrade : OnchainTrade where
  opp := sampleSale.opp
  config := sampleSale.config
  investmentLamports := 100000000
  dlmm := none
  freshBins := none
  walletPubkey := .ofNat 1
  memeMint := .ofLiteral sampleMeme
  memeTokenProgram := .ofLiteral tokenProgram
  onchainProgramId := memoProgram
  pool := some (.ofNat 40)
  fetchMetaAndReserves _ := some
    ({ coinCreator := .ofNat 42, isMayhemMode := false, isCashbackCoin := false
       poolBaseTokenAccount := .ofNat 43, poolQuoteTokenAccount := .ofNat 44 },
      100000000000, 1000000000000000)
  whirlpool := none
  cpmm := some
    { sampleCpmmState with
      poolPubkey := "1111111111111111111111111111111s", token0VaultRaw := 200000000000 }

def sampleRouting : ExecutionRouting where
  useOnchainProgram := false
  onchainArbAlt := some ""
  onchainTrafficPct := 0

/-- The sale of the least of the tokens pays for the hundred million lamports. -/
theorem onchainTx_covered_sample :
    ∃ tx leg, OnchainBuilder.pumpToCpmm.build (fun _ _ => .zero) (fun ix => some ix.data)
        sampleOnchainTrade = .ok tx ∧
      (leg : BuyLeg).investmentLamports ≠ 0 ∧
        leg.investmentLamports.toNat + (computeCuCostSol sampleOnchainTrade.config +
            sampleOnchainTrade.config.minProfitThresholdSol) * 1000000000 ≤
          (tx.solOutEst.toNat : ℚ) := by
  obtain ⟨tx, built⟩ := exists_of_isOk
    (show (OnchainBuilder.pumpToCpmm.build (fun _ _ => .zero) (fun ix => some ix.data)
      sampleOnchainTrade).isOk = true by decide +kernel)
  obtain ⟨-, -, leg, -, invests, -, covered⟩ := onchainTx_covered (fun _ _ => .zero)
    (fun ix => some ix.data) sampleOnchainTrade sampleMeme sampleRouting .pumpSwapAmm .raydiumCpmm
    .pumpToCpmm tx (by decide +kernel) (by decide +kernel) (by decide +kernel) rfl built
  exact ⟨tx, leg, built, invests.1, covered⟩

end AtomicArbitrage.Bot

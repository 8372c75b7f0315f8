import AtomicArbitrage.Bot.BuilderPricing
import AtomicArbitrage.Client.DirectSwaps
import AtomicArbitrage.Client.TokenPrograms

/-!
# The direct builders

Without the router program a trade is two swap instructions of one transaction.  The
second one sells an amount that is fixed when the transaction is built, and fails if the
first one has bought less.
-/

namespace AtomicArbitrage.Bot

open Outcome
open AtomicArbitrage.Client (SwapFields ClientResult parsePubkey)

/-! ## What the builders are given -/

/-- The addresses and settings of a trade. -/
structure DirectArgs where
  pda : FindProgramAddress
  opp : BuilderOpportunity
  config : BuilderConfig
  walletPubkey : Pubkey
  solMint : Pubkey
  memeMint : Pubkey
  tokenProgram : Pubkey
  solTokenProgram : Pubkey
  userSolAta : Pubkey
  userMemeAta : Pubkey
  investmentLamports : UInt64

inductive PumpVenueKind where
  | bondingCurve
  | pumpSwapPool
deriving DecidableEq

/-- What the builders read of a `BondingCurveState`. -/
structure BondingCurveState where
  bondingCurveAddress : String
  virtualSolReserves : UInt64
  virtualTokenReserves : UInt64
  venueKind : PumpVenueKind
deriving DecidableEq

/-- What a builder finds in the cache and fetches. -/
structure DirectMarket where
  dlmm : Option CachedDlmm
  bondingCurve : Option BondingCurveState
  freshBins : Option (List DlmmBin)
  /-- `fetch_pumpswap_meta_and_reserves`. -/
  pumpswap : Pubkey → Option (Client.PumpSwapPoolMeta × UInt64 × UInt64)
  pumpfunFeeRecipient : Pubkey

/-- The two swap instructions of a transaction.  Those around them prepare and close accounts
and set the budget. -/
structure SwapPair where
  buy : Instruction
  sell : Instruction
deriving DecidableEq

/-! ## Prices -/

/-- `estimate_dlmm_swap_output`, as a word. -/
def dlmmOut (freshBins : List DlmmBin) (amountIn : UInt64) (isXToY : Bool) (feeRate : ℚ) :
    UInt64 :=
  UInt64.ofNat (estimateDlmmSwapOutput freshBins amountIn.toNat isXToY feeRate)

/-- The estimate over the bins, and where it is nothing, over the reserves. -/
def dlmmOutOrReserves (freshBins : List DlmmBin) (isXToY : Bool)
    (reserveIn reserveOut amountIn : UInt64) (feeRate : ℚ) : Option UInt64 :=
  let out := dlmmOut freshBins amountIn isXToY feeRate
  if out = 0 then estimateSwapOutput reserveIn reserveOut amountIn feeRate else some out

/-- `estimate_pumpfun_buy_output`. -/
def estimatePumpfunBuyOutput (amountInSol virtualSolReserves virtualTokenReserves : UInt64)
    (feeBps : UInt32) : Option UInt64 :=
  estimateSwapOutput virtualSolReserves virtualTokenReserves amountInSol (feeBps.toNat / 10000)

/-- `estimate_pumpfun_sell_output`. -/
def estimatePumpfunSellOutput (amountInTokens virtualSolReserves virtualTokenReserves : UInt64)
    (feeBps : UInt32) : Option UInt64 :=
  estimateSwapOutput virtualTokenReserves virtualSolReserves amountInTokens
    (feeBps.toNat / 10000)

namespace DirectArgs

variable (a : DirectArgs)

def dlmmFeeRate : ℚ := a.opp.dlmmFeeBps.toNat / 10000

/-- The slippage of a leg. -/
def slippage (amountIn reserveIn : UInt64) : ℚ :=
  computeEffectiveSlippage amountIn reserveIn a.config.slippageToleranceBps

/-- Both tests of the net profit: the second one asks for half of what the scanner found. -/
def testBothProfits (solOutEst : UInt64) : BuildResult Unit := do
  testProfit a.opp a.config solOutEst
  let safetyFloor := a.opp.netProfitSol * (1 / 2)
  require (¬freshNet a.opp a.config solOutEst < safetyFloor)
    (.rejected (freshNet a.opp a.config solOutEst))

/-! ## Instructions -/

/-- The DLMM swap of a direct builder. -/
def swap2Ix (dlmm : CachedDlmm) (userTokenIn userTokenOut : Pubkey)
    (amountIn minAmountOut : UInt64) : ClientResult Instruction := do
  let lbPair ← parsePubkey dlmm.lbPair
  let reserveX ← parsePubkey dlmm.reserveXAddress
  let reserveY ← parsePubkey dlmm.reserveYAddress
  let tokenXMint ← parsePubkey dlmm.tokenXMint
  let tokenYMint ← parsePubkey dlmm.tokenYMint
  let (tokenXProgram, tokenYProgram) :=
    Client.directTokenPrograms dlmm.toDlmmPoolReserves a.solTokenProgram a.tokenProgram
  let binExt ← dlmm.binArrayAddresses.mapM Client.unwrapPubkey
  pure (Client.buildDlmmSwap2Ix a.walletPubkey lbPair binExt reserveX reserveY userTokenIn
    userTokenOut tokenXMint tokenYMint (Client.dlmmOracle a.pda lbPair)
    (.ofLiteral Client.dlmmEventAuthority) amountIn minAmountOut tokenXProgram tokenYProgram
    (.ofLiteral Client.memoProgram) (.ofLiteral Client.dlmmProgram) dlmm.bitmapExtension none)

/-- The PumpSwap purchase of a direct builder. -/
def pumpswapBuyIx (pool : Pubkey) (poolMeta : Client.PumpSwapPoolMeta)
    (minMemeOut : UInt64) : Instruction :=
  Client.buildPumpswapBuyIx a.pda a.walletPubkey pool a.memeMint a.solMint a.userMemeAta
    a.userSolAta poolMeta.poolBaseTokenAccount poolMeta.poolQuoteTokenAccount a.tokenProgram
    a.solTokenProgram a.investmentLamports minMemeOut true poolMeta.coinCreator
    poolMeta.isCashbackCoin (.ofLiteral Client.pumpswapBuybackFeeRecipient)
    (Client.pickPumpswapProtocolFeeRecipient poolMeta.isMayhemMode)

/-- The PumpSwap sale of a direct builder. -/
def pumpswapSellIx (pool : Pubkey) (poolMeta : Client.PumpSwapPoolMeta)
    (sellAmount minSolOut : UInt64) : Instruction :=
  Client.buildPumpswapSellIx a.pda a.walletPubkey pool a.memeMint a.solMint a.userMemeAta
    a.userSolAta poolMeta.poolBaseTokenAccount poolMeta.poolQuoteTokenAccount a.tokenProgram
    a.solTokenProgram sellAmount minSolOut poolMeta.coinCreator poolMeta.isCashbackCoin
    (.ofLiteral Client.pumpswapBuybackFeeRecipient)
    (Client.pickPumpswapProtocolFeeRecipient poolMeta.isMayhemMode)

/-! ## The builders for PumpSwap pools -/

/-- `build_pumpswap_amm_buy_dlmm_sell`. -/
def buildPumpswapAmmBuyDlmmSell (m : DirectMarket) (bc : BondingCurveState) :
    BuildResult SwapPair := do
  let pool ← ofClient (parsePubkey bc.bondingCurveAddress)
  let dlmm ← orFail m.dlmm .notCached
  let (poolMeta, freshSolRes, freshTokRes) ← orFail (m.pumpswap pool) .fetchFailed
  let freshBins ← orFail m.freshBins .fetchFailed
  let memeOutEst ← orFail (checkedPumpswapBuyOutput a.investmentLamports freshSolRes freshTokRes
    a.config.pumpswapFeeBps) .overflow
  let minMemeOut := minAmountOut memeOutEst (a.slippage a.investmentLamports freshSolRes)
  let (_, memeReserveForSell) := dlmm.reserves
  let sellAmount := minMemeOut
  let sellSlippage := a.slippage sellAmount memeReserveForSell
  let solOutEst := dlmmOut freshBins sellAmount (!dlmm.solIsX) a.dlmmFeeRate
  require (solOutEst ≠ 0) .noEstimate
  let minSolOut := minAmountOut solOutEst sellSlippage
  a.testBothProfits solOutEst
  let sell ← ofClient (a.swap2Ix dlmm a.userMemeAta a.userSolAta sellAmount minSolOut)
  pure { buy := a.pumpswapBuyIx pool poolMeta minMemeOut, sell }

/-- `build_dlmm_buy_pumpswap_amm_sell`. -/
def buildDlmmBuyPumpswapAmmSell (m : DirectMarket) (bc : BondingCurveState)
    (dlmm : CachedDlmm) : BuildResult SwapPair := do
  let pool ← ofClient (parsePubkey bc.bondingCurveAddress)
  let (poolMeta, freshSolRes, freshTokRes) ← orFail (m.pumpswap pool) .fetchFailed
  let freshBins ← orFail m.freshBins .fetchFailed
  let (solReserve, _) := dlmm.reserves
  let buySlippage := a.slippage a.investmentLamports solReserve
  let memeOutEst := dlmmOut freshBins a.investmentLamports dlmm.solIsX a.dlmmFeeRate
  require (memeOutEst ≠ 0) .noEstimate
  let minMemeOut := minAmountOut memeOutEst buySlippage
  let sellAmount := minMemeOut
  let sellSlippage := a.slippage sellAmount freshTokRes
  let solOutEst ← orFail (checkedPumpswapSellOutput sellAmount freshTokRes freshSolRes
    a.config.pumpswapFeeBps) .overflow
  let minSolOut := minAmountOut solOutEst sellSlippage
  a.testBothProfits solOutEst
  let buy ← ofClient
    (a.swap2Ix dlmm a.userSolAta a.userMemeAta a.investmentLamports minMemeOut)
  pure { buy, sell := a.pumpswapSellIx pool poolMeta sellAmount minSolOut }

/-! ## The builders for bonding curves -/

/-- `build_pumpswap_buy_dlmm_sell`.  A PumpSwap pool is left to the other builder, which
fetches again. -/
def buildPumpswapBuyDlmmSell (m later : DirectMarket) : BuildResult SwapPair := do
  let dlmm ← orFail m.dlmm .notCached
  let bc ← orFail m.bondingCurve .fetchFailed
  let freshBins ← orFail m.freshBins .fetchFailed
  if bc.venueKind = .pumpSwapPool then a.buildPumpswapAmmBuyDlmmSell later bc
  else do
    let bondingCurve ← ofClient (parsePubkey bc.bondingCurveAddress)
    let bcMemeAta := Client.ataAddr a.pda bondingCurve a.memeMint a.tokenProgram
    let memeOutEst ← orFail (estimatePumpfunBuyOutput a.investmentLamports bc.virtualSolReserves
      bc.virtualTokenReserves a.config.pumpfunFeeBps) .panic
    let buySlippage := a.slippage a.investmentLamports bc.virtualSolReserves
    let minMemeOut := minAmountOut memeOutEst buySlippage
    let (solReserveForSell, memeReserveForSell) := dlmm.reserves
    -- never sell more than what was bought
    let sellAmount := memeOutEst
    let sellSlippage := a.slippage sellAmount memeReserveForSell
    let solOutEst ← orFail (dlmmOutOrReserves freshBins (!dlmm.solIsX) memeReserveForSell
      solReserveForSell sellAmount a.dlmmFeeRate) .panic
    let minSolOut := minAmountOut solOutEst sellSlippage
    let sell ← ofClient (a.swap2Ix dlmm a.userMemeAta a.userSolAta sellAmount minSolOut)
    pure
      { buy := Client.buildPumpfunBuyIx a.pda a.walletPubkey a.memeMint bondingCurve bcMemeAta
          a.userMemeAta m.pumpfunFeeRecipient a.investmentLamports minMemeOut a.tokenProgram
        sell }

/-- `build_dlmm_buy_pumpswap_sell`. -/
def buildDlmmBuyPumpswapSell (m later : DirectMarket) : BuildResult SwapPair := do
  let dlmm ← orFail m.dlmm .notCached
  let bc ← orFail m.bondingCurve .fetchFailed
  let freshBins ← orFail m.freshBins .fetchFailed
  if bc.venueKind = .pumpSwapPool then a.buildDlmmBuyPumpswapAmmSell later bc dlmm
  else do
    let bondingCurve ← ofClient (parsePubkey bc.bondingCurveAddress)
    let bcMemeAta := Client.ataAddr a.pda bondingCurve a.memeMint a.tokenProgram
    let (solReserve, memeReserveForBuy) := dlmm.reserves
    let buySlippage := a.slippage a.investmentLamports solReserve
    let memeOutEst ← orFail (dlmmOutOrReserves freshBins dlmm.solIsX solReserve
      memeReserveForBuy a.investmentLamports a.dlmmFeeRate) .panic
    let minMemeOut := minAmountOut memeOutEst buySlippage
    let sellSlippage := a.slippage memeOutEst bc.virtualTokenReserves
    let solOutEst ← orFail (estimatePumpfunSellOutput memeOutEst bc.virtualSolReserves
      bc.virtualTokenReserves a.config.pumpfunFeeBps) .panic
    let minSolOut := minAmountOut solOutEst sellSlippage
    let buy ← ofClient
      (a.swap2Ix dlmm a.userSolAta a.userMemeAta a.investmentLamports minMemeOut)
    pure
      { buy
        sell := Client.buildPumpfunSellIx a.pda a.walletPubkey a.memeMint bondingCurve bcMemeAta
          a.userMemeAta m.pumpfunFeeRecipient memeOutEst minSolOut a.tokenProgram }

end DirectArgs

/-! ## What is bought covers what is sold -/

/-- The four builders. -/
inductive DirectBuilder where
  | pumpswapBuyDlmmSell
  | dlmmBuyPumpswapSell
  | pumpswapAmmBuyDlmmSell (bc : BondingCurveState)
  | dlmmBuyPumpswapAmmSell (bc : BondingCurveState) (dlmm : CachedDlmm)

def DirectBuilder.build (a : DirectArgs) (m later : DirectMarket) :
    DirectBuilder → BuildResult SwapPair
  | pumpswapBuyDlmmSell => a.buildPumpswapBuyDlmmSell m later
  | dlmmBuyPumpswapSell => a.buildDlmmBuyPumpswapSell m later
  | pumpswapAmmBuyDlmmSell bc => a.buildPumpswapAmmBuyDlmmSell m bc
  | dlmmBuyPumpswapAmmSell bc dlmm => a.buildDlmmBuyPumpswapAmmSell m bc dlmm

namespace SwapPair

variable (pair : SwapPair)

/-- The amount that the second instruction sells. -/
def sold : UInt64 := (SwapFields.decode pair.sell.data).amountIn

/-- The least amount that the first instruction buys. -/
def bought : UInt64 := (SwapFields.decode pair.buy.data).minAmountOut

/-- A purchase that fills at its minimum is enough for the sale. -/
def Covered : Prop := pair.sold ≤ pair.bought

end SwapPair

/-- The builder sells the minimum of its purchase, or nothing is tolerated, or nothing is
expected of the purchase. -/
def DirectBuilder.SellsMinimum (a : DirectArgs) (m : DirectMarket) : DirectBuilder → Prop
  | pumpswapBuyDlmmSell => ∃ bc, m.bondingCurve = some bc ∧
      (bc.venueKind = .pumpSwapPool ∨
        estimatePumpfunBuyOutput a.investmentLamports bc.virtualSolReserves
          bc.virtualTokenReserves a.config.pumpfunFeeBps = some 0 ∨
        a.config.slippageToleranceBps = 0)
  | dlmmBuyPumpswapSell => ∃ bc dlmm freshBins, m.bondingCurve = some bc ∧ m.dlmm = some dlmm ∧
      m.freshBins = some freshBins ∧
      (bc.venueKind = .pumpSwapPool ∨
        dlmmOutOrReserves freshBins dlmm.solIsX dlmm.reserves.1 dlmm.reserves.2
          a.investmentLamports a.dlmmFeeRate = some 0 ∨
        a.config.slippageToleranceBps = 0)
  | pumpswapAmmBuyDlmmSell _ => True
  | dlmmBuyPumpswapAmmSell _ _ => True

section

variable {a : DirectArgs} {m later : DirectMarket} {pair : SwapPair}

/-- The two amounts of a DLMM swap. -/
theorem decode_swap2Ix {dlmm : CachedDlmm} {userTokenIn userTokenOut : Pubkey}
    {amountIn minAmountOut : UInt64} {ix : Instruction}
    (built : a.swap2Ix dlmm userTokenIn userTokenOut amountIn minAmountOut = .ok ix) :
    (SwapFields.decode ix.data).amountIn = amountIn ∧
      (SwapFields.decode ix.data).minAmountOut = minAmountOut := by
  simp only [DirectArgs.swap2Ix, bind_eq_ok, pure_eq_ok] at built
  rcases built with ⟨_, _, _, _, _, _, _, _, _, _, _, _, rfl⟩
  rw [Client.buildDlmmSwap2Ix_data, SwapFields.decode_encode rfl]
  exact ⟨rfl, rfl⟩

/-- A sale of the minimum is covered. -/
theorem covered_of_eq (same : pair.sold = pair.bought) : pair.Covered := by
  rw [SwapPair.Covered, same]
  exact UInt64.le_refl pair.bought

theorem covered_pumpswapAmmBuyDlmmSell {bc : BondingCurveState}
    (built : a.buildPumpswapAmmBuyDlmmSell m bc = .ok pair) : pair.Covered := by
  simp only [DirectArgs.buildPumpswapAmmBuyDlmmSell, bind_eq_ok, pure_eq_ok, ofClient_eq_ok]
    at built
  rcases built with ⟨pool, _, dlmm, _, reserves, _, freshBins, _, memeOutEst, _, _, _, _, _, sell,
    swapped, rfl⟩
  apply covered_of_eq
  rw [SwapPair.sold, SwapPair.bought, (decode_swap2Ix swapped).1, DirectArgs.pumpswapBuyIx,
    Client.buildPumpswapBuyIx_data, SwapFields.decode_encode rfl]

theorem covered_dlmmBuyPumpswapAmmSell {bc : BondingCurveState} {dlmm : CachedDlmm}
    (built : a.buildDlmmBuyPumpswapAmmSell m bc dlmm = .ok pair) : pair.Covered := by
  simp only [DirectArgs.buildDlmmBuyPumpswapAmmSell, bind_eq_ok, pure_eq_ok, ofClient_eq_ok]
    at built
  rcases built with ⟨pool, _, reserves, _, freshBins, _, _, _, solOutEst, _, _, _, buy, swapped,
    rfl⟩
  apply covered_of_eq
  rw [SwapPair.sold, SwapPair.bought, (decode_swap2Ix swapped).2, DirectArgs.pumpswapSellIx,
    Client.buildPumpswapSellIx_data, SwapFields.decode_encode rfl]

/-- The amounts of a pair that sells what it expects to buy. -/
structure SellsEstimate (a : DirectArgs) (pair : SwapPair) (memeOutEst reserveIn : UInt64) :
    Prop where
  sold : pair.sold = memeOutEst
  bought : pair.bought = minAmountOut memeOutEst (a.slippage a.investmentLamports reserveIn)

theorem SellsEstimate.covered_iff {memeOutEst reserveIn : UInt64}
    (sells : SellsEstimate a pair memeOutEst reserveIn) :
    pair.Covered ↔ memeOutEst = 0 ∨ a.config.slippageToleranceBps = 0 := by
  rw [SwapPair.Covered, sells.sold, sells.bought]
  exact le_minAmountOut_iff

theorem sellsEstimate_pumpswapBuyDlmmSell {bc : BondingCurveState}
    (fetched : m.bondingCurve = some bc) (curve : bc.venueKind ≠ .pumpSwapPool)
    (built : a.buildPumpswapBuyDlmmSell m later = .ok pair) :
    ∃ memeOutEst, estimatePumpfunBuyOutput a.investmentLamports bc.virtualSolReserves
        bc.virtualTokenReserves a.config.pumpfunFeeBps = some memeOutEst ∧
      SellsEstimate a pair memeOutEst bc.virtualSolReserves := by
  simp only [DirectArgs.buildPumpswapBuyDlmmSell, fetched, bind_eq_ok, pure_eq_ok,
    orFail_eq_ok, Option.some.injEq, exists_eq_left', if_neg curve, ofClient_eq_ok] at built
  rcases built with ⟨dlmm, _, freshBins, _, bondingCurve, _, memeOutEst, estimated, solOutEst, _,
    sell, swapped, rfl⟩
  refine ⟨memeOutEst, estimated, (decode_swap2Ix swapped).1, ?_⟩
  rw [SwapPair.bought, Client.buildPumpfunBuyIx_data, SwapFields.decode_encode rfl]

theorem sellsEstimate_dlmmBuyPumpswapSell {bc : BondingCurveState} {dlmm : CachedDlmm}
    {freshBins : List DlmmBin} (fetched : m.bondingCurve = some bc)
    (cached : m.dlmm = some dlmm) (bins : m.freshBins = some freshBins)
    (curve : bc.venueKind ≠ .pumpSwapPool)
    (built : a.buildDlmmBuyPumpswapSell m later = .ok pair) :
    ∃ memeOutEst, dlmmOutOrReserves freshBins dlmm.solIsX dlmm.reserves.1 dlmm.reserves.2
        a.investmentLamports a.dlmmFeeRate = some memeOutEst ∧
      SellsEstimate a pair memeOutEst dlmm.reserves.1 := by
  simp only [DirectArgs.buildDlmmBuyPumpswapSell, fetched, cached, bins, bind_eq_ok, pure_eq_ok,
    orFail_eq_ok, Option.some.injEq, exists_eq_left', if_neg curve, ofClient_eq_ok] at built
  rcases built with ⟨bondingCurve, _, memeOutEst, estimated, solOutEst, _, buy, swapped, rfl⟩
  refine ⟨memeOutEst, estimated, ?_, (decode_swap2Ix swapped).2⟩
  rw [SwapPair.sold, Client.buildPumpfunSellIx_data, SwapFields.decode_encode rfl]

/-- What a bonding curve builder has found before it looks at the venue. -/
theorem found_of_built
    {rest : CachedDlmm → BondingCurveState → List DlmmBin → BuildResult SwapPair}
    (built : (do
      let dlmm ← orFail m.dlmm .notCached
      let bc ← orFail m.bondingCurve .fetchFailed
      let freshBins ← orFail m.freshBins .fetchFailed
      rest dlmm bc freshBins : BuildResult SwapPair) = .ok pair) :
    ∃ bc dlmm freshBins, m.bondingCurve = some bc ∧ m.dlmm = some dlmm ∧
      m.freshBins = some freshBins ∧ rest dlmm bc freshBins = .ok pair := by
  rcases bind_eq_ok.mp built with ⟨dlmm, cached, built⟩
  rcases bind_eq_ok.mp built with ⟨bc, fetched, built⟩
  rcases bind_eq_ok.mp built with ⟨freshBins, bins, built⟩
  exact ⟨bc, dlmm, freshBins, orFail_eq_ok.mp fetched, orFail_eq_ok.mp cached,
    orFail_eq_ok.mp bins, built⟩

/-- An estimate is nothing, for a pair that sells it. -/
theorem SellsEstimate.covered_iff_of {estimate : Option UInt64} {reserveIn : UInt64}
    (sells : ∃ memeOutEst, estimate = some memeOutEst ∧
      SellsEstimate a pair memeOutEst reserveIn) :
    pair.Covered ↔ estimate = some 0 ∨ a.config.slippageToleranceBps = 0 := by
  rcases sells with ⟨memeOutEst, rfl, sells⟩
  rw [sells.covered_iff, Option.some.injEq]

/-- A purchase covers the sale of its transaction exactly where the builder sells the minimum
of it, or nothing is tolerated, or nothing is expected of it. -/
theorem directPair_covered_iff {builder : DirectBuilder} (built : builder.build a m later = .ok pair) :
    pair.Covered ↔ builder.SellsMinimum a m := by
  cases builder with
  | pumpswapBuyDlmmSell =>
      rcases found_of_built built with ⟨bc, dlmm, freshBins, fetched, cached, bins, rest⟩
      simp only [DirectBuilder.SellsMinimum, fetched, Option.some.injEq, exists_eq_left']
      by_cases pool : bc.venueKind = .pumpSwapPool
      · rw [if_pos pool] at rest
        exact iff_of_true (covered_pumpswapAmmBuyDlmmSell rest) (.inl pool)
      · rw [or_iff_right pool]
        exact SellsEstimate.covered_iff_of
          (sellsEstimate_pumpswapBuyDlmmSell fetched pool built)
  | dlmmBuyPumpswapSell =>
      rcases found_of_built built with ⟨bc, dlmm, freshBins, fetched, cached, bins, rest⟩
      simp only [DirectBuilder.SellsMinimum, fetched, cached, bins, Option.some.injEq,
        exists_and_left, exists_eq_left']
      by_cases pool : bc.venueKind = .pumpSwapPool
      · rw [if_pos pool] at rest
        exact iff_of_true (covered_dlmmBuyPumpswapAmmSell rest) (.inl pool)
      · rw [or_iff_right pool]
        exact SellsEstimate.covered_iff_of
          (sellsEstimate_dlmmBuyPumpswapSell fetched cached bins pool built)
  | pumpswapAmmBuyDlmmSell bc => exact iff_of_true (covered_pumpswapAmmBuyDlmmSell built) trivial
  | dlmmBuyPumpswapAmmSell bc dlmm =>
      exact iff_of_true (covered_dlmmBuyPumpswapAmmSell built) trivial

end

/-- A trade of a tenth of a SOL. -/
def sampleDirectArgs (slippageToleranceBps : UInt32) : DirectArgs where
  pda _ program := program
  opp := { investmentSol := 1 / 10, netProfitSol := 1 / 100, dlmmFeeBps := 30 }
  config :=
    { slippageToleranceBps, minProfitThresholdSol := 1 / 1000, pumpswapFeeBps := 25
      pumpfunFeeBps := 100, computeUnitPriceMicroLamports := 10000, computeUnitLimit := 600000 }
  walletPubkey := .ofNat 70
  solMint := .ofLiteral Client.nativeSolMint
  memeMint := .ofNat 71
  tokenProgram := .ofLiteral Client.tokenProgram
  solTokenProgram := .ofLiteral Client.tokenProgram
  userSolAta := .ofNat 72
  userMemeAta := .ofNat 73
  investmentLamports := 100000000

/-- A new bonding curve, and a DLMM pool without bins. -/
def sampleDirectMarket : DirectMarket where
  dlmm := some
    { lbPair := Client.memoProgram, tokenXMint := Client.nativeSolMint
      tokenYMint := Client.usdcMint, reserveXAddress := Client.ataProgram
      reserveYAddress := Client.cpmmAmmConfig, binArrayAddresses := []
      binArrayBitmapExtension := none, reserveX := 50000000000, reserveY := 1500000000000 }
  bondingCurve := some
    { bondingCurveAddress := Client.cpmmAmmConfig, virtualSolReserves := 30000000000
      virtualTokenReserves := 1073000000000000, venueKind := .bondingCurve }
  freshBins := some []
  pumpswap _ := none
  pumpfunFeeRecipient := .ofNat 74

/-- Without a tolerance the purchase is enough. -/
theorem directPair_covered_strict :
    ∃ pair, DirectBuilder.pumpswapBuyDlmmSell.build (sampleDirectArgs 0) sampleDirectMarket
        sampleDirectMarket = .ok pair ∧ pair.Covered := by
  rcases exists_of_isOk
    (show (DirectBuilder.pumpswapBuyDlmmSell.build (sampleDirectArgs 0) sampleDirectMarket
      sampleDirectMarket).isOk = true by decide +kernel) with ⟨pair, built⟩
  exact ⟨pair, built, (directPair_covered_iff built).mpr ⟨_, rfl, .inr (.inr rfl)⟩⟩

/-- With a tolerance of one percent the sale asks for more than the purchase guarantees. -/
theorem not_directPair_covered :
    ¬∀ (a : DirectArgs) (m later : DirectMarket) (builder : DirectBuilder) (pair : SwapPair),
      builder.build a m later = .ok pair → pair.Covered := by
  intro all
  rcases exists_of_isOk
    (show (DirectBuilder.pumpswapBuyDlmmSell.build (sampleDirectArgs 100) sampleDirectMarket
      sampleDirectMarket).isOk = true by decide +kernel) with ⟨pair, built⟩
  have sells := sellsEstimate_pumpswapBuyDlmmSell rfl (by decide) built
  have either := (SellsEstimate.covered_iff_of sells).mp (all _ _ _ _ _ built)
  exact absurd either (by decide +kernel)

end AtomicArbitrage.Bot

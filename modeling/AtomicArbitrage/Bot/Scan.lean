import AtomicArbitrage.Bot.FeePipeline
import AtomicArbitrage.Bot.InvestmentSizing
import Mathlib.Data.List.MinMax
import Mathlib.Data.List.ReduceOption

/-!
# Scanning a mint

The scanner compares the pools of every two venues, the cheapest of the one with the dearest of
the other, and offers what passes its filters in the order of the net profit.  Prices, amounts
and profits in floating point are read as exact rationals.
-/

namespace AtomicArbitrage.Bot

/-! ## Prices -/

/-- A `PoolPriceSnapshot` with its price, which no query lets through unless it is positive. -/
structure PricedPool extends PoolPriceSnapshot where
  solPerToken : ℚ
  positive : 0 < solPerToken

/-- What the scanner reads of a `VenuePrice`.  Only the DLMM venue has several pools. -/
structure VenuePrice where
  venue : Venue
  poolPrices : List PricedPool
  single : venue = .meteoraDlmm ∨ poolPrices.length ≤ 1

/-- A snapshot with its price, if that is one. -/
def PoolPriceSnapshot.priced (pool : PoolPriceSnapshot) (price : ℚ) : Option PricedPool :=
  if positive : 0 < price then
    some { toPoolPriceSnapshot := pool, solPerToken := price, positive }
  else none

namespace VenuePrice

/-- `from_single_pool`. -/
def fromSinglePool (venue : Venue) (solPerToken : Option ℚ) (pool : PoolPriceSnapshot) :
    VenuePrice where
  venue := venue
  poolPrices := (solPerToken.bind { pool with lbPair := "" }.priced).toList
  single := .inr Option.length_toList_le

/-- `query_dlmm_price`, of the pools that are quoted in SOL and of those quoted in USDC.  A sane
price is positive. -/
def queryDlmmPrice (solMint usdcMint : String) (solPools usdcPools : List DlmmPoolRecord)
    (solPrice : ℚ) : VenuePrice where
  venue := .meteoraDlmm
  poolPrices :=
    let snapshots (pools : List DlmmPoolRecord) (quoteMint : String) (decimals : UInt8)
        (quotePrice : ℚ) : List PricedPool :=
      pools.filterMap fun pool => do
        let snapshot ← buildSnapshot quoteMint decimals quotePrice pool
        snapshot.priced (Bot.solPerToken snapshot.memeIsX decimals quotePrice pool)
    snapshots solPools solMint 9 1 ++
      if solPrice > 0 then snapshots usdcPools usdcMint 6 solPrice else []
  single := .inl rfl

/-- The pools that can be chosen. -/
def tradable (price : VenuePrice) : List PricedPool :=
  price.poolPrices.filter fun pool => pool.tokenReservesRaw ≥ 1000000

/-- `best_buy_snapshot`: of equal prices the first. -/
def bestBuySnapshot (price : VenuePrice) : Option PricedPool :=
  price.tradable.argmin PricedPool.solPerToken

/-- `best_sell_snapshot`: of equal prices the last. -/
def bestSellSnapshot (price : VenuePrice) : Option PricedPool :=
  price.tradable.reverse.argmax PricedPool.solPerToken

end VenuePrice

/-! ## The scanner -/

/-- `ArbitrageOpportunity`. -/
structure ArbitrageOpportunity where
  signature : String
  slot : ℕ
  tokenMint : String
  buyVenue : Venue
  sellVenue : Venue
  buyPriceSol : ℚ
  sellPriceSol : ℚ
  priceDiffBps : ℕ
  investmentSol : ℚ
  expectedProfitSol : ℚ
  netProfitSol : ℚ
  confidence : ℚ
  dlmmFeeBps : UInt32

/-- What `build_opps_from_prices` reads of an `ArbitrageScanner` besides the sizing. -/
structure MarketScanner extends SizingScanner where
  minProfitThresholdSol : ℚ
  minPoolTvlSol : ℚ
  enabledVenues : List Venue
  profitSafetyFactor : ℚ
  skipReverify : Bool

/-- What is answered while two venues are compared: the latest slot of the stream, and the bins
of a pool. -/
structure PairAnswers where
  latestSlot : ℕ
  fetchBinsFresh : String → Option (List DlmmBin)

/-- Two venues with the pool that is chosen of each. -/
structure Pairing where
  buyVenue : Venue
  buy : PricedPool
  sellVenue : Venue
  sell : PricedPool

namespace Pairing

/-- `price_diff_bps`. -/
def priceDiffBps (pair : Pairing) : ℕ :=
  Saturating.cast 32
    ((pair.sell.solPerToken - pair.buy.solPerToken) / pair.buy.solPerToken * 10000)

/-- `dlmm_side`: the pool whose bins are fetched again, the other one, and whether the first
is sold to. -/
def dlmmSide (pair : Pairing) : Option (PricedPool × PricedPool × Bool) :=
  if pair.sell.lbPair ≠ "" then some (pair.sell, pair.buy, true)
  else if pair.buy.lbPair ≠ "" then some (pair.buy, pair.sell, false)
  else none

end Pairing

namespace MarketScanner

variable (s : MarketScanner)

/-- The test of `min_pool_tvl_sol`. -/
def DeepEnough (pool : PricedPool) : Prop :=
  s.minPoolTvlSol ≤ pool.solReservesRaw.toNat / pool.quoteUnit * 2

instance (pool : PricedPool) : Decidable (s.DeepEnough pool) :=
  inferInstanceAs (Decidable (_ ≤ _))

/-- The pool to buy from at a venue. -/
def buyPool (venuePrices : List VenuePrice) (venue : Venue) : Option PricedPool := do
  let price ← venuePrices.find? fun price => price.venue = venue
  let pool ← price.bestBuySnapshot
  if s.DeepEnough pool then some pool else none

/-- The pool to sell to at a venue. -/
def sellPool (venuePrices : List VenuePrice) (venue : Venue) : Option PricedPool := do
  let price ← venuePrices.find? fun price => price.venue = venue
  let pool ← price.bestSellSnapshot
  if s.DeepEnough pool then some pool else none

/-- The pairs that the two loops get to. -/
def pairings (venuePrices : List VenuePrice) : List Pairing :=
  s.enabledVenues.flatMap fun buyVenue =>
    match s.buyPool venuePrices buyVenue with
    | none => []
    | some buy =>
        s.enabledVenues.filterMap fun sellVenue =>
          if buyVenue = sellVenue then none
          else (s.sellPool venuePrices sellVenue).map fun sell =>
            { buyVenue, buy, sellVenue, sell }

/-- Whether an estimate passes the test against freshly fetched bins.  It is made for a DLMM
pool, while the stream has delivered nothing.  A failed fetch is a rejection, and so is a panic
of the second simulation, which takes a pool without one of its reserves
(`exists_refetchAndVerify`) and a threshold that the profit `0` of such a pool reaches. -/
def reverifies (answers : PairAnswers) (pair : Pairing) (investment netProfit : ℚ) : Bool :=
  match pair.dlmmSide with
  | none => true
  | some (dlmmSnap, otherSnap, dlmmIsSell) =>
      let gprcWarm : Bool := answers.latestSlot > 0
      let shouldReverify := !s.skipReverify && !gprcWarm
      if netProfit ≥ s.minProfitThresholdSol ∧ shouldReverify then
        match s.refetchAndVerify answers.fetchBinsFresh dlmmSnap.toPoolPriceSnapshot
            otherSnap.toPoolPriceSnapshot investment dlmmIsSell with
        | some freshNet => ¬freshNet < netProfit * (1 / 2)
        | none => false
      else true

/-- The body of the inner loop: `none` is a panic, and `some none` a pair that is passed
over. -/
def judge (answers : PairAnswers) (mint source : String) (slot : ℕ) (pair : Pairing) :
    Option (Option ArbitrageOpportunity) := do
  if pair.buy.solPerToken ≥ pair.sell.solPerToken then
    return none
  if pair.priceDiffBps < s.minPriceDiffBps.toNat then
    return none
  if pair.priceDiffBps > 5000 then
    return none
  let (investment, grossProfit, netProfit, confidence) ←
    s.estimateProfit pair.buy.toPoolPriceSnapshot pair.sell.toPoolPriceSnapshot
      (UInt32.ofNat pair.priceDiffBps)
  if !s.reverifies answers pair investment netProfit then
    return none
  let maxReasonableGross := investment * (pair.priceDiffBps / 10000) * 3
  if grossProfit > max maxReasonableGross (1 / 1000) then
    return none
  let safeProfit := netProfit * s.profitSafetyFactor
  if safeProfit ≤ 0 ∨ safeProfit < s.minProfitThresholdSol then
    return none
  return some {
    signature := source
    slot := slot
    tokenMint := mint
    buyVenue := pair.buyVenue
    sellVenue := pair.sellVenue
    buyPriceSol := pair.buy.solPerToken
    sellPriceSol := pair.sell.solPerToken
    priceDiffBps := pair.priceDiffBps
    investmentSol := investment
    expectedProfitSol := grossProfit
    netProfitSol := netProfit
    confidence := confidence
    dlmmFeeBps := dlmmFeeBps pair.buyVenue pair.sellVenue pair.buy.toPoolPriceSnapshot
      pair.sell.toPoolPriceSnapshot }

/-- The loops over the pairs. -/
def collect (answers : Venue → Venue → PairAnswers) (mint source : String) (slot : ℕ) :
    List Pairing → Option (List ArbitrageOpportunity)
  | [] => some []
  | pair :: pairs => do
      let found ← s.judge (answers pair.buyVenue pair.sellVenue) mint source slot pair
      let others ← collect answers mint source slot pairs
      pure (found.toList ++ others)

/-- `build_opps_from_prices`. -/
def buildOppsFromPrices (answers : Venue → Venue → PairAnswers) (mint source : String)
    (slot : ℕ) (venuePrices : List VenuePrice) : Option (List ArbitrageOpportunity) := do
  let opportunities ← s.collect answers mint source slot (s.pairings venuePrices)
  pure (opportunities.mergeSort fun left right => right.netProfitSol ≤ left.netProfitSol)

/-! ## What an opportunity promises -/

/-- The pool of a venue that no other tradable one undercuts. -/
structure Cheapest (venuePrices : List VenuePrice) (venue : Venue) (pool : PricedPool) : Prop where
  listed : ∃ price, venuePrices.find? (fun price => price.venue = venue) = some price ∧
    pool ∈ price.tradable ∧ ∀ other ∈ price.tradable, pool.solPerToken ≤ other.solPerToken
  deep : s.DeepEnough pool

/-- The pool of a venue that no other tradable one outbids. -/
structure Dearest (venuePrices : List VenuePrice) (venue : Venue) (pool : PricedPool) : Prop where
  listed : ∃ price, venuePrices.find? (fun price => price.venue = venue) = some price ∧
    pool ∈ price.tradable ∧ ∀ other ∈ price.tradable, other.solPerToken ≤ pool.solPerToken
  deep : s.DeepEnough pool

/-- An estimate of a pair passes every filter. -/
structure Passes (answers : PairAnswers) (pair : Pairing) (investment gross net : ℚ) :
    Prop where
  rises : pair.buy.solPerToken < pair.sell.solPerToken
  spread : s.minPriceDiffBps.toNat ≤ pair.priceDiffBps ∧ pair.priceDiffBps ≤ 5000
  estimated : ∃ confidence, s.estimateProfit pair.buy.toPoolPriceSnapshot
    pair.sell.toPoolPriceSnapshot (UInt32.ofNat pair.priceDiffBps) =
      some (investment, gross, net, confidence)
  confirmed : s.reverifies answers pair investment net = true
  credible : gross ≤ max (investment * (pair.priceDiffBps / 10000) * 3) (1 / 1000)
  safe : 0 < net * s.profitSafetyFactor ∧
    s.minProfitThresholdSol ≤ net * s.profitSafetyFactor

/-- What an offered opportunity says of the pools of its pair: the prices rise by the minimum
and by no more than half, the profit is the one simulated at its investment, which is within
the limits and survives the safety factor, and fresh bins have confirmed it where they were
asked for. -/
structure Promises (answers : PairAnswers) (buy sell : PricedPool)
    (opp : ArbitrageOpportunity) : Prop where
  bought : opp.buyPriceSol = buy.solPerToken
  sold : opp.sellPriceSol = sell.solPerToken
  rises : buy.solPerToken < sell.solPerToken
  least : buy.solPerToken * (1 + s.minPriceDiffBps.toNat / 10000) ≤ sell.solPerToken
  most : sell.solPerToken < buy.solPerToken * (1 + 5001 / 10000)
  simulated : s.computeArbAtInvestment buy.toPoolPriceSnapshot sell.toPoolPriceSnapshot
    opp.investmentSol = some (opp.expectedProfitSol, opp.netProfitSol)
  net : opp.netProfitSol = opp.expectedProfitSol - s.cuCostSol
  invested : minInvest ≤ opp.investmentSol ∧ opp.investmentSol ≤ s.maxInvestmentSol
  credible : opp.expectedProfitSol ≤
    max (opp.investmentSol * (opp.priceDiffBps / 10000) * 3) (1 / 1000)
  safe : 0 < opp.netProfitSol * s.profitSafetyFactor ∧
    s.minProfitThresholdSol ≤ opp.netProfitSol * s.profitSafetyFactor
  confirmed : s.skipReverify = false → answers.latestSlot = 0 →
    s.minProfitThresholdSol ≤ opp.netProfitSol → ∀ dlmmSnap otherSnap dlmmIsSell,
      Pairing.dlmmSide ⟨opp.buyVenue, buy, opp.sellVenue, sell⟩ =
        some (dlmmSnap, otherSnap, dlmmIsSell) →
      ∃ freshNet, s.refetchAndVerify answers.fetchBinsFresh dlmmSnap.toPoolPriceSnapshot
        otherSnap.toPoolPriceSnapshot opp.investmentSol dlmmIsSell = some freshNet ∧
          opp.netProfitSol / 2 ≤ freshNet

end MarketScanner

/-! ## Estimates -/

namespace SizingScanner

section

variable {buy sell : PoolPriceSnapshot}

theorem exists_simulateBuy (held : buy.solReservesRaw ≠ 0) (investment : ℚ) :
    ∃ tokens, ArbitrageScanner.simulateBuy buy investment = some tokens := by
  have reserve : buy.solReservesRaw.toNat ≠ 0 := fun zero => held (UInt64.toNat_inj.mp zero)
  simp only [ArbitrageScanner.simulateBuy]
  split
  · exact ⟨_, rfl⟩
  · exact ArbitrageScanner.exists_constantProduct reserve

/-- The binary search ends, below its upper bound. -/
theorem exists_capacityLoop (held : buy.solReservesRaw ≠ 0) (maxTokens n : ℕ) {lo hi : ℚ}
    (le : lo ≤ hi) : ∃ found, capacityLoop buy maxTokens n lo hi = some found ∧ found ≤ hi := by
  induction n generalizing lo hi with
  | zero => exact ⟨lo, rfl, le⟩
  | succ n ih =>
      rcases exists_simulateBuy held ((lo + hi) / 2) with ⟨tokens, bought⟩
      simp only [capacityLoop, bought, Option.bind_eq_bind, Option.bind_some]
      split
      · exact ih (by linarith)
      · have shrunk : (lo + hi) / 2 ≤ hi := by linarith
        rcases ih (show lo ≤ (lo + hi) / 2 by linarith) with ⟨found, searched, below⟩
        exact ⟨found, searched, below.trans shrunk⟩

theorem exists_findMaxInvestWithinCapacity (held : buy.solReservesRaw ≠ 0) {maxInvest : ℚ}
    (nonneg : 0 ≤ maxInvest) (maxTokens : ℕ) :
    ∃ found, findMaxInvestWithinCapacity buy maxInvest maxTokens = some found ∧
      found ≤ maxInvest := by
  rcases exists_simulateBuy held maxInvest with ⟨tokens, bought⟩
  simp only [findMaxInvestWithinCapacity, bought, Option.bind_eq_bind, Option.bind_some]
  split
  · exact ⟨maxInvest, rfl, le_rfl⟩
  · exact exists_capacityLoop held maxTokens 12 nonneg

/-- The search returns the profit that is simulated at the investment it returns. -/
theorem computeArb_of_goldenSearch {s : SizingScanner} {lo hi best gross net : ℚ}
    (searched : s.goldenSearchProfit buy sell lo hi = some (best, gross, net)) :
    s.computeArbAtInvestment buy sell best = some (gross, net) := by
  simp only [goldenSearchProfit, Option.bind_eq_bind, Option.bind_eq_some_iff] at searched
  rcases searched with ⟨_, _, _, _, bracket, _, ⟨gross', net'⟩, computed, same⟩
  rw [Option.pure_def, Option.some_inj, Prod.mk.injEq, Prod.mk.injEq] at same
  rcases same with ⟨rfl, rfl, rfl⟩
  exact computed

/-- Over bins that are fetched the second simulation ends where the other pool has both
reserves. -/
theorem exists_refetchAndVerify (s : ArbitrageScanner)
    {fetchBinsFresh : String → Option (List DlmmBin)} {dlmmSnap otherSnap : PoolPriceSnapshot}
    {freshBins : List DlmmBin} (fetched : fetchBinsFresh dlmmSnap.lbPair = some freshBins)
    (nonempty : freshBins ≠ []) (stocked : otherSnap.solReservesRaw ≠ 0)
    (tokens : otherSnap.tokenReservesRaw ≠ 0) (investment : ℚ) (dlmmIsSell : Bool) :
    ∃ net, s.refetchAndVerify fetchBinsFresh dlmmSnap otherSnap investment dlmmIsSell =
      some net := by
  have positive {reserve : UInt64} (held : reserve ≠ 0) : reserve.toNat ≠ 0 :=
    fun zero => held (UInt64.toNat_inj.mp zero)
  simp only [ArbitrageScanner.refetchAndVerify, fetched, Option.bind_eq_bind, Option.bind_some,
    if_neg nonempty]
  cases dlmmIsSell with
  | true =>
      rcases ArbitrageScanner.exists_constantProduct (positive stocked) with ⟨got, bought⟩
      rw [if_pos rfl, PoolPriceSnapshot.buyFromReserves, bought]
      exact ⟨_, rfl⟩
  | false =>
      rcases ArbitrageScanner.exists_constantProduct (positive tokens) with ⟨back, sold⟩
      rw [if_neg Bool.false_ne_true, PoolPriceSnapshot.sellIntoReserves, sold]
      exact ⟨_, rfl⟩

/-- Whatever the pools hold, the estimate does not panic: it returns nothing, or the profit
simulated at an investment between the minimum and the maximum. -/
theorem estimateProfit_cases (s : SizingScanner) (buy sell : PoolPriceSnapshot)
    (priceDiffBps : UInt32) :
    ∃ investment gross net confidence,
      s.estimateProfit buy sell priceDiffBps = some (investment, gross, net, confidence) ∧
        (net = 0 ∨ s.computeArbAtInvestment buy sell investment = some (gross, net) ∧
          minInvest ≤ investment ∧ investment ≤ s.maxInvestmentSol) := by
  have nothing : ∃ investment gross net confidence : ℚ,
      some ((0, 0, 0, 0) : ℚ × ℚ × ℚ × ℚ) = some (investment, gross, net, confidence) ∧
        (net = 0 ∨ s.computeArbAtInvestment buy sell investment = some (gross, net) ∧
          minInvest ≤ investment ∧ investment ≤ s.maxInvestmentSol) :=
    ⟨0, 0, 0, 0, rfl, .inl rfl⟩
  rw [estimateProfit]
  split
  · exact nothing
  next stocked =>
  simp only [not_or] at stocked
  simp only
  split
  · exact nothing
  next large =>
  split
  · exact nothing
  have nonneg : (0 : ℚ) ≤ minInvest := by norm_num [minInvest]
  rcases exists_findMaxInvestWithinCapacity stocked.1 (nonneg.trans (not_lt.mp large))
    (asU128 (sell.tokenReservesRaw.toNat * s.maxPoolShare)) with ⟨upper, found, below⟩
  simp only [found, Option.bind_eq_bind, Option.bind_some]
  split
  · exact nothing
  split
  · exact nothing
  next room =>
  rcases s.goldenSearchProfit_spec ⟨stocked.1, stocked.2.1⟩ ⟨stocked.2.2.1, stocked.2.2.2⟩
    (not_lt.mp room) with ⟨best, gross, net, searched, low, high⟩
  simp only [searched, Option.bind_some]
  refine ⟨best, gross, net, _, rfl, .inr ⟨computeArb_of_goldenSearch searched, low, ?_⟩⟩
  calc
    best ≤ upper := high.trans (min_le_left _ _)
    _ ≤ _ := below
    _ ≤ s.maxInvestmentSol := min_le_right _ _

end

end SizingScanner

/-! ## The pairs -/

namespace VenuePrice

variable {price : VenuePrice} {pool : PricedPool}

theorem bestBuySnapshot_spec (best : price.bestBuySnapshot = some pool) :
    pool ∈ price.tradable ∧
      ∀ other ∈ price.tradable, pool.solPerToken ≤ other.solPerToken :=
  ⟨List.argmin_mem best, fun _ inside => List.le_of_mem_argmin inside best⟩

theorem bestSellSnapshot_spec (best : price.bestSellSnapshot = some pool) :
    pool ∈ price.tradable ∧
      ∀ other ∈ price.tradable, other.solPerToken ≤ pool.solPerToken :=
  ⟨List.mem_reverse.mp (List.argmax_mem best),
    fun _ inside => List.le_of_mem_argmax (List.mem_reverse.mpr inside) best⟩

end VenuePrice

namespace MarketScanner

section

variable {s : MarketScanner} {venuePrices : List VenuePrice} {venue : Venue} {pool : PricedPool}

theorem buyPool_spec (chosen : s.buyPool venuePrices venue = some pool) :
    s.Cheapest venuePrices venue pool := by
  simp only [buyPool, Option.bind_eq_bind, Option.bind_eq_some_iff] at chosen
  rcases chosen with ⟨price, found, best, snapshot, kept⟩
  split at kept
  · next deep =>
      cases kept
      exact ⟨⟨price, found, VenuePrice.bestBuySnapshot_spec snapshot⟩, deep⟩
  · cases kept

theorem sellPool_spec (chosen : s.sellPool venuePrices venue = some pool) :
    s.Dearest venuePrices venue pool := by
  simp only [sellPool, Option.bind_eq_bind, Option.bind_eq_some_iff] at chosen
  rcases chosen with ⟨price, found, best, snapshot, kept⟩
  split at kept
  · next deep =>
      cases kept
      exact ⟨⟨price, found, VenuePrice.bestSellSnapshot_spec snapshot⟩, deep⟩
  · cases kept

/-- The loops get to every two different venues that both have a pool. -/
theorem mem_pairings {pair : Pairing} :
    pair ∈ s.pairings venuePrices ↔
      (pair.buyVenue ∈ s.enabledVenues ∧ pair.sellVenue ∈ s.enabledVenues) ∧
        pair.buyVenue ≠ pair.sellVenue ∧
        s.buyPool venuePrices pair.buyVenue = some pair.buy ∧
        s.sellPool venuePrices pair.sellVenue = some pair.sell := by
  rw [pairings, List.mem_flatMap]
  constructor
  · rintro ⟨buyVenue, enabled, inside⟩
    cases bought : s.buyPool venuePrices buyVenue with
    | none =>
        simp only [bought] at inside
        cases inside
    | some buy =>
        simp only [bought, List.mem_filterMap] at inside
        rcases inside with ⟨sellVenue, sellEnabled, made⟩
        split at made
        · cases made
        · next other =>
            rcases Option.map_eq_some_iff.mp made with ⟨sell, sold, rfl⟩
            exact ⟨⟨enabled, sellEnabled⟩, other, bought, sold⟩
  · rintro ⟨⟨enabled, sellEnabled⟩, other, bought, sold⟩
    refine ⟨pair.buyVenue, enabled, ?_⟩
    simp only [bought, List.mem_filterMap]
    refine ⟨pair.sellVenue, sellEnabled, ?_⟩
    rw [if_neg other, sold]
    rfl

/-- The spread in basis points is rounded down. -/
theorem spread_bounds (pair : Pairing) (rises : pair.buy.solPerToken < pair.sell.solPerToken)
    (most : pair.priceDiffBps ≤ 5000) :
    pair.buy.solPerToken * (1 + pair.priceDiffBps / 10000) ≤ pair.sell.solPerToken ∧
      pair.sell.solPerToken < pair.buy.solPerToken * (1 + 5001 / 10000) := by
  have positive := pair.buy.positive
  have exact : (pair.sell.solPerToken - pair.buy.solPerToken) / pair.buy.solPerToken * 10000 *
      pair.buy.solPerToken = (pair.sell.solPerToken - pair.buy.solPerToken) * 10000 := by
    field_simp
  generalize spread : (pair.sell.solPerToken - pair.buy.solPerToken) / pair.buy.solPerToken *
    10000 = bps at exact
  have nonneg : 0 ≤ bps := by
    rw [← spread]
    exact mul_nonneg (div_nonneg (sub_nonneg.mpr rises.le) positive.le) (by norm_num)
  have word : pair.priceDiffBps = min ⌊bps⌋₊ (2 ^ 32 - 1) := by
    rw [Pairing.priceDiffBps, spread, Saturating.cast]
  have floor : pair.priceDiffBps = ⌊bps⌋₊ := by omega
  constructor
  · have below : (pair.priceDiffBps : ℚ) ≤ bps := by
      rw [floor]
      exact Nat.floor_le nonneg
    have scaled := mul_le_mul_of_nonneg_right below positive.le
    rw [exact] at scaled
    linarith
  · have above : bps < 5001 := by
      have next := Nat.lt_floor_add_one bps
      have limit : ((⌊bps⌋₊ : ℕ) : ℚ) ≤ 5000 := by
        rw [← floor]
        exact_mod_cast most
      linarith
    have scaled := mul_lt_mul_of_pos_right above positive
    rw [exact] at scaled
    linarith

/-- A pair is offered exactly when its estimate passes every filter. -/
theorem judge_iff {answers : PairAnswers} {mint source : String} {slot : ℕ} {pair : Pairing}
    {net : ℚ} :
    (∃ opp, s.judge answers mint source slot pair = some (some opp) ∧
        opp.netProfitSol = net) ↔
      ∃ investment gross, s.Passes answers pair investment gross net := by
  constructor
  · rintro ⟨opp, judged, rfl⟩
    rw [judge] at judged
    split at judged
    · cases judged
    next rises =>
    split at judged
    · cases judged
    next least =>
    split at judged
    · cases judged
    next most =>
    simp only [Option.bind_eq_bind, Option.bind_eq_some_iff] at judged
    rcases judged with ⟨⟨investment, gross, net, confidence⟩, estimated, judged⟩
    simp only at judged
    split at judged
    · cases judged
    next confirmed =>
    split at judged
    · cases judged
    next credible =>
    split at judged
    · cases judged
    next safe =>
    cases judged
    simp only [not_or, not_le, not_lt, Bool.not_eq_true, Bool.not_eq_false'] at *
    exact ⟨investment, gross, rises, ⟨least, most⟩, ⟨confidence, estimated⟩, confirmed,
      credible, safe⟩
  · rintro ⟨investment, gross, passes⟩
    rcases passes.estimated with ⟨confidence, estimated⟩
    rw [judge]
    rw [if_neg (not_le.mpr passes.rises), if_neg (Nat.not_lt.mpr passes.spread.1),
      if_neg (Nat.not_lt.mpr passes.spread.2)]
    simp only [estimated, Option.bind_eq_bind, Option.bind_some, passes.confirmed]
    rw [if_neg (by decide), if_neg (not_lt.mpr passes.credible),
      if_neg (not_or.mpr ⟨not_le.mpr passes.safe.1, not_lt.mpr passes.safe.2⟩)]
    exact ⟨_, rfl, rfl⟩

/-- The net profit is the gross one less the cost of a transaction. -/
theorem net_of_computeArb {s : ArbitrageScanner} {buy sell : PoolPriceSnapshot}
    {investment gross net : ℚ}
    (computed : s.computeArbAtInvestment buy sell investment = some (gross, net)) :
    net = gross - s.cuCostSol := by
  rw [ArbitrageScanner.computeArbAtInvestment_eq, Option.map_eq_some_iff] at computed
  rcases computed with ⟨quoteBack, _, same⟩
  rw [Prod.mk.injEq] at same
  rw [← same.1, ← same.2]

/-- Where the test against fresh bins is made, it finds at least half of the profit. -/
theorem reverifies_spec {answers : PairAnswers} {pair : Pairing} {investment netProfit : ℚ}
    (passed : s.reverifies answers pair investment netProfit = true)
    (asked : s.skipReverify = false) (cold : answers.latestSlot = 0)
    (worth : s.minProfitThresholdSol ≤ netProfit) {dlmmSnap otherSnap : PricedPool}
    {dlmmIsSell : Bool} (side : pair.dlmmSide = some (dlmmSnap, otherSnap, dlmmIsSell)) :
    ∃ freshNet, s.refetchAndVerify answers.fetchBinsFresh dlmmSnap.toPoolPriceSnapshot
      otherSnap.toPoolPriceSnapshot investment dlmmIsSell = some freshNet ∧
        netProfit / 2 ≤ freshNet := by
  have tested : netProfit ≥ s.minProfitThresholdSol ∧
      (!s.skipReverify && !decide (answers.latestSlot > 0)) = true := by
    rw [asked, cold]
    exact ⟨worth, rfl⟩
  simp only [reverifies, side] at passed
  rw [if_pos tested] at passed
  cases fresh : s.refetchAndVerify answers.fetchBinsFresh dlmmSnap.toPoolPriceSnapshot
      otherSnap.toPoolPriceSnapshot investment dlmmIsSell with
  | none =>
      rw [fresh] at passed
      cases passed
  | some freshNet =>
      rw [fresh] at passed
      have enough := not_lt.mp (of_decide_eq_true passed)
      exact ⟨freshNet, rfl, by linarith⟩

/-- A pair is passed over, or offered as it promises. -/
theorem judge_cases (s : MarketScanner) (answers : PairAnswers) (mint source : String)
    (slot : ℕ) (pair : Pairing) :
    s.judge answers mint source slot pair = some none ∨
      ∃ opp, s.judge answers mint source slot pair = some (some opp) ∧
        (opp.buyVenue = pair.buyVenue ∧ opp.sellVenue = pair.sellVenue ∧
          opp.tokenMint = mint ∧ opp.slot = slot) ∧
        s.Promises answers pair.buy pair.sell opp := by
  rw [judge]
  split
  · exact .inl rfl
  next rises =>
  split
  · exact .inl rfl
  next least =>
  split
  · exact .inl rfl
  next most =>
  rcases s.estimateProfit_cases pair.buy.toPoolPriceSnapshot pair.sell.toPoolPriceSnapshot
    (UInt32.ofNat pair.priceDiffBps) with ⟨investment, gross, net, confidence, estimated, cases⟩
  simp only [estimated, Option.bind_eq_bind, Option.bind_some]
  split
  · exact .inl rfl
  next reverified =>
  split
  · exact .inl rfl
  next credible =>
  split
  · exact .inl rfl
  next safe =>
  simp only [not_or, not_le, not_lt] at rises least most credible safe
  refine .inr ⟨_, rfl, ⟨rfl, rfl, rfl, rfl⟩, ?_⟩
  have profit : s.computeArbAtInvestment pair.buy.toPoolPriceSnapshot
      pair.sell.toPoolPriceSnapshot investment = some (gross, net) ∧
        minInvest ≤ investment ∧ investment ≤ s.maxInvestmentSol := by
    rcases cases with zero | computed
    · rw [zero, zero_mul] at safe
      exact absurd safe.1 (lt_irrefl 0)
    · exact computed
  rcases spread_bounds pair rises most with ⟨rose, capped⟩
  have positive := pair.buy.positive
  exact {
    bought := rfl
    sold := rfl
    rises := rises
    least := by
      have words : (s.minPriceDiffBps.toNat : ℚ) ≤ pair.priceDiffBps := by
        exact_mod_cast least
      have scaled := mul_le_mul_of_nonneg_left words positive.le
      linarith
    most := capped
    simulated := profit.1
    net := net_of_computeArb profit.1
    invested := profit.2
    credible := credible
    safe := safe
    confirmed := by
      intro asked cold worth dlmmSnap otherSnap dlmmIsSell side
      rw [Bool.not_eq_true, Bool.not_eq_false'] at reverified
      exact reverifies_spec reverified asked cold worth side }

theorem promises_of_judge {s : MarketScanner} {answers : PairAnswers} {mint source : String}
    {slot : ℕ} {pair : Pairing} {opp : ArbitrageOpportunity}
    (judged : s.judge answers mint source slot pair = some (some opp)) :
    (opp.buyVenue = pair.buyVenue ∧ opp.sellVenue = pair.sellVenue ∧ opp.tokenMint = mint ∧
      opp.slot = slot) ∧ s.Promises answers pair.buy pair.sell opp := by
  rcases s.judge_cases answers mint source slot pair with passed | ⟨found, made, promises⟩
  · rw [passed] at judged
    cases judged
  · rw [judged, Option.some_inj, Option.some_inj] at made
    rw [made]
    exact promises

/-- The loops end with what the pairs offer. -/
theorem collect_spec (s : MarketScanner) (answers : Venue → Venue → PairAnswers)
    (mint source : String) (slot : ℕ) (pairs : List Pairing) :
    ∃ opps, s.collect answers mint source slot pairs = some opps ∧
      ∀ opp, opp ∈ opps ↔ ∃ pair ∈ pairs,
        s.judge (answers pair.buyVenue pair.sellVenue) mint source slot pair =
          some (some opp) := by
  induction pairs with
  | nil => exact ⟨[], rfl, by simp⟩
  | cons pair pairs ih =>
      rcases ih with ⟨others, collected, offered⟩
      have judged : ∃ found, s.judge (answers pair.buyVenue pair.sellVenue) mint source slot
          pair = some found := by
        rcases s.judge_cases (answers pair.buyVenue pair.sellVenue) mint source slot pair with
          passed | ⟨opp, made, _⟩
        · exact ⟨none, passed⟩
        · exact ⟨some opp, made⟩
      rcases judged with ⟨found, judged⟩
      refine ⟨found.toList ++ others, ?_, ?_⟩
      · simp only [collect, judged, collected, Option.bind_eq_bind, Option.bind_some,
          Option.pure_def]
      · intro opp
        rw [List.mem_append, Option.mem_toList, List.exists_mem_cons_iff, judged, Option.some_inj,
          offered opp]

/-- A scan offers what the pairs offer, the best first. -/
theorem exists_buildOpps (s : MarketScanner) (answers : Venue → Venue → PairAnswers)
    (mint source : String) (slot : ℕ) (venuePrices : List VenuePrice) :
    ∃ opps, s.buildOppsFromPrices answers mint source slot venuePrices = some opps ∧
      opps.Pairwise (fun left right => right.netProfitSol ≤ left.netProfitSol) ∧
      ∀ opp, opp ∈ opps ↔ ∃ pair ∈ s.pairings venuePrices,
        s.judge (answers pair.buyVenue pair.sellVenue) mint source slot pair =
          some (some opp) := by
  rcases s.collect_spec answers mint source slot (s.pairings venuePrices) with
    ⟨opps, collected, offered⟩
  refine ⟨opps.mergeSort fun left right => right.netProfitSol ≤ left.netProfitSol, ?_, ?_, ?_⟩
  · simp only [buildOppsFromPrices, collected, Option.bind_eq_bind, Option.bind_some,
      Option.pure_def]
  · refine (List.pairwise_mergeSort ?_ ?_ opps).imp of_decide_eq_true
    · intro _ _ _ first second
      rw [decide_eq_true_eq] at first second ⊢
      exact second.trans first
    · intro left right
      rw [Bool.or_eq_true, decide_eq_true_eq, decide_eq_true_eq]
      exact le_total _ _
  · intro opp
    rw [List.mem_mergeSort, offered opp]

/-- In a list with the best first, nothing is better than the first. -/
theorem le_head {opps : List ArbitrageOpportunity}
    (sorted : opps.Pairwise fun left right => right.netProfitSol ≤ left.netProfitSol)
    {opp : ArbitrageOpportunity} (inside : opp ∈ opps) :
    ∃ best ∈ opps.head?, opp.netProfitSol ≤ best.netProfitSol := by
  cases opps with
  | nil => cases inside
  | cons best rest =>
      refine ⟨best, rfl, ?_⟩
      rcases List.mem_cons.mp inside with same | behind
      · rw [same]
      · exact (List.pairwise_cons.mp sorted).1 opp behind

/-- A venue of at most one pool has one pool to choose. -/
theorem eq_of_few {price : VenuePrice} (few : price.poolPrices.length ≤ 1)
    {left right : PricedPool} (leftInside : left ∈ price.tradable)
    (rightInside : right ∈ price.tradable) : left = right := by
  have leftListed := List.mem_of_mem_filter leftInside
  have rightListed := List.mem_of_mem_filter rightInside
  generalize price.poolPrices = pools at few leftListed rightListed
  cases pools with
  | nil => cases leftListed
  | cons pool rest =>
      have alone : rest = [] := List.length_eq_zero_iff.mp
        (Nat.le_zero.mp (Nat.le_of_succ_le_succ few))
      subst alone
      rw [List.mem_singleton.mp leftListed, List.mem_singleton.mp rightListed]

/-- Of two venues that offer both directions one is the DLMM venue. -/
theorem dlmm_of_both {s : MarketScanner} {venuePrices : List VenuePrice}
    {first second : Venue} {buy sell buyBack sellBack : PricedPool}
    (bought : s.Cheapest venuePrices first buy) (sold : s.Dearest venuePrices second sell)
    (boughtBack : s.Cheapest venuePrices second buyBack)
    (soldBack : s.Dearest venuePrices first sellBack)
    (rises : buy.solPerToken < sell.solPerToken)
    (risesBack : buyBack.solPerToken < sellBack.solPerToken) :
    first = .meteoraDlmm ∨ second = .meteoraDlmm := by
  rcases bought.listed with ⟨price, found, inside, _⟩
  rcases soldBack.listed with ⟨price', found', insideBack, _⟩
  rcases sold.listed with ⟨other, otherFound, otherInside, _⟩
  rcases boughtBack.listed with ⟨other', otherFound', otherInsideBack, _⟩
  cases found.symm.trans found'
  cases otherFound.symm.trans otherFound'
  have named : price.venue = first := by simpa using List.find?_some found
  have otherNamed : other.venue = second := by simpa using List.find?_some otherFound
  rcases price.single with dlmm | few
  · exact .inl (named.symm.trans dlmm)
  rcases other.single with dlmm | otherFew
  · exact .inr (otherNamed.symm.trans dlmm)
  have same : buy = sellBack := eq_of_few few inside insideBack
  have otherSame : sell = buyBack := eq_of_few otherFew otherInside otherInsideBack
  subst same otherSame
  exact absurd rises risesBack.not_gt

end

/-! ## What a scan offers -/

/-- For any prices and any answers a scan ends.  It offers the best opportunity first, and
each between the cheapest pool of one venue and the dearest of another, with everything that an
opportunity promises. -/
theorem buildOppsFromPrices_promises (s : MarketScanner)
    (answers : Venue → Venue → PairAnswers) (mint source : String) (slot : ℕ)
    (venuePrices : List VenuePrice) :
    ∃ opps, s.buildOppsFromPrices answers mint source slot venuePrices = some opps ∧
      opps.Pairwise (fun left right => right.netProfitSol ≤ left.netProfitSol) ∧
      ∀ opp ∈ opps, (opp.tokenMint = mint ∧ opp.slot = slot) ∧
        (opp.buyVenue ∈ s.enabledVenues ∧ opp.sellVenue ∈ s.enabledVenues ∧
          opp.buyVenue ≠ opp.sellVenue) ∧
        ∃ buy sell, s.Cheapest venuePrices opp.buyVenue buy ∧
          s.Dearest venuePrices opp.sellVenue sell ∧
          s.Promises (answers opp.buyVenue opp.sellVenue) buy sell opp := by
  rcases s.exists_buildOpps answers mint source slot venuePrices with
    ⟨opps, built, sorted, offered⟩
  refine ⟨opps, built, sorted, ?_⟩
  intro opp inside
  rcases (offered opp).mp inside with ⟨pair, paired, judged⟩
  rcases mem_pairings.mp paired with ⟨enabled, other, bought, sold⟩
  rcases promises_of_judge judged with ⟨⟨buyVenue, sellVenue, tokenMint, slot⟩, promises⟩
  rw [buyVenue, sellVenue]
  exact ⟨⟨tokenMint, slot⟩, ⟨enabled.1, enabled.2, other⟩, pair.buy, pair.sell,
    buyPool_spec bought, sellPool_spec sold, promises⟩

/-- A scan misses nothing: it offers two venues, with the net profit of their estimate, exactly
when the pools chosen of them pass every filter, and the first offer is at least as good as any
other.  It offers both directions between two venues only where one of them is the DLMM
venue. -/
theorem buildOppsFromPrices_exact (s : MarketScanner)
    (answers : Venue → Venue → PairAnswers) (mint source : String) (slot : ℕ)
    (venuePrices : List VenuePrice) :
    ∃ opps, s.buildOppsFromPrices answers mint source slot venuePrices = some opps ∧
      (∀ buyVenue sellVenue net,
        (∃ opp ∈ opps, opp.buyVenue = buyVenue ∧ opp.sellVenue = sellVenue ∧
            opp.netProfitSol = net) ↔
          (buyVenue ∈ s.enabledVenues ∧ sellVenue ∈ s.enabledVenues) ∧
            buyVenue ≠ sellVenue ∧
            ∃ buy sell investment gross, s.buyPool venuePrices buyVenue = some buy ∧
              s.sellPool venuePrices sellVenue = some sell ∧
              s.Passes (answers buyVenue sellVenue) ⟨buyVenue, buy, sellVenue, sell⟩
                investment gross net) ∧
      (∀ opp ∈ opps, ∃ best ∈ opps.head?, opp.netProfitSol ≤ best.netProfitSol) ∧
      ∀ opp ∈ opps, ∀ back ∈ opps,
        back.buyVenue = opp.sellVenue → back.sellVenue = opp.buyVenue →
          opp.buyVenue = .meteoraDlmm ∨ opp.sellVenue = .meteoraDlmm := by
  rcases s.exists_buildOpps answers mint source slot venuePrices with
    ⟨opps, built, sorted, offered⟩
  refine ⟨opps, built, ?_, fun opp inside => le_head sorted inside, ?_⟩
  · intro buyVenue sellVenue net
    constructor
    · rintro ⟨opp, inside, rfl, rfl, same⟩
      rcases (offered opp).mp inside with ⟨pair, paired, judged⟩
      rcases mem_pairings.mp paired with ⟨enabled, other, bought, sold⟩
      rcases promises_of_judge judged with ⟨⟨buyVenue, sellVenue, _⟩, _⟩
      rcases judge_iff.mp ⟨opp, judged, same⟩ with ⟨investment, gross, passes⟩
      rw [buyVenue, sellVenue]
      exact ⟨enabled, other, pair.buy, pair.sell, investment, gross, bought, sold, passes⟩
    · rintro ⟨enabled, other, buy, sell, investment, gross, bought, sold, passes⟩
      have paired : ⟨buyVenue, buy, sellVenue, sell⟩ ∈ s.pairings venuePrices :=
        mem_pairings.mpr ⟨enabled, other, bought, sold⟩
      rcases judge_iff.mpr ⟨investment, gross, passes⟩ with ⟨opp, judged, same⟩
      rcases promises_of_judge judged with ⟨⟨buyVenue, sellVenue, _⟩, _⟩
      exact ⟨opp, (offered opp).mpr ⟨_, paired, judged⟩, buyVenue, sellVenue, same⟩
  · intro opp inside back insideBack forth turned
    rcases (offered opp).mp inside with ⟨pair, paired, judged⟩
    rcases (offered back).mp insideBack with ⟨pairBack, pairedBack, judgedBack⟩
    rcases mem_pairings.mp paired with ⟨_, _, bought, sold⟩
    rcases mem_pairings.mp pairedBack with ⟨_, _, boughtBack, soldBack⟩
    rcases promises_of_judge judged with ⟨⟨buyVenue, sellVenue, _⟩, promises⟩
    rcases promises_of_judge judgedBack with ⟨⟨buyVenueBack, sellVenueBack, _⟩, promisesBack⟩
    rw [← buyVenueBack, forth] at boughtBack
    rw [← sellVenueBack, turned] at soldBack
    rw [← buyVenue] at bought
    rw [← sellVenue] at sold
    exact dlmm_of_both (buyPool_spec bought) (sellPool_spec sold) (buyPool_spec boughtBack)
      (sellPool_spec soldBack) promises.rises promisesBack.rises

end MarketScanner

end AtomicArbitrage.Bot

import AtomicArbitrage.Bot.DlmmEstimate

/-!
# The fee of a DLMM pool

The fee is computed from two words of the pool account, carried through the price snapshot
and the opportunity, and subtracted from ten thousand wherever a swap of the pool is
simulated.  Each of these functions is also read with overflow checks, where a fee above
ten thousand is a panic.  As in the estimates, the product of a fee and ten thousand is exact.
-/

namespace AtomicArbitrage.Bot

/-! ## Where the fee comes from -/

/-- `compute_fee_bps`. -/
def computeFeeBps (binStep baseFactor : UInt16) : UInt32 :=
  if baseFactor = 0 then 100
  else max (binStep.toUInt32 * 10000 / baseFactor.toUInt32) 1

/-- What the price query reads of a `DlmmPoolReserves`. -/
structure DlmmPoolRecord where
  lbPair : String
  tokenXMint : String
  bins : List DlmmBin
  binStep : UInt16
  baseFactor : UInt16
  activeId : Int32

def minSaneDlmmPrice : ℚ := 1 / 10 ^ 12
def maxSaneDlmmPrice : ℚ := 10 ^ 6

/-- `is_sane_dlmm_price`. -/
def isSaneDlmmPrice (price : ℚ) : Bool := minSaneDlmmPrice ≤ price ∧ price ≤ maxSaneDlmmPrice

/-- `saturating_add`. -/
def saturatingAdd (left right : UInt64) : UInt64 :=
  UInt64.ofNat (min (left.toNat + right.toNat) (2 ^ 64 - 1))

/-- `sol_per_token`: the price of the active bin, in SOL. -/
def solPerToken (memeIsX : Bool) (decimals : UInt8) (solPrice : ℚ) (pool : DlmmPoolRecord) : ℚ :=
  let step : ℚ := pool.binStep.toNat / 10000
  let binPrice := (1 + step) ^ pool.activeId.toInt
  let quotePerToken := if memeIsX then binPrice else 1 / binPrice
  if decimals ≠ 9 ∧ solPrice > 0 then quotePerToken / solPrice else quotePerToken

/-- The snapshot of one pool, unless its price is not sane. -/
def buildSnapshot (quoteMint : String) (decimals : UInt8) (solPrice : ℚ)
    (pool : DlmmPoolRecord) : Option PoolPriceSnapshot :=
  let memeIsX : Bool := pool.tokenXMint ≠ quoteMint
  if isSaneDlmmPrice (solPerToken memeIsX decimals solPrice pool) then
    let (totalX, totalY) := pool.bins.foldl
      (fun (x, y) bin => (saturatingAdd x bin.amountX, saturatingAdd y bin.amountY)) (0, 0)
    let (tokenReservesRaw, quoteReservesRaw) :=
      if memeIsX then (totalX, totalY) else (totalY, totalX)
    some {
      tokenReservesRaw
      solReservesRaw := quoteReservesRaw
      bins := pool.bins
      memeIsX
      feeBps := computeFeeBps pool.binStep pool.baseFactor
      lbPair := pool.lbPair
      quoteDecimals := decimals }
  else none

/-- `build_snapshots` of `query_dlmm_price`. -/
def buildSnapshots (pools : List DlmmPoolRecord) (quoteMint : String) (decimals : UInt8)
    (solPrice : ℚ) : List PoolPriceSnapshot :=
  pools.filterMap (buildSnapshot quoteMint decimals solPrice)

/-- `Venue`. -/
inductive Venue where
  | pumpSwapAmm
  | meteoraDlmm
  | raydiumAmmv4
  | raydiumCpmm
  | orcaWhirlpool
deriving DecidableEq

/-- `dlmm_fee_bps` of an opportunity. -/
def dlmmFeeBps (buyVenue sellVenue : Venue) (buySnapshot sellSnapshot : PoolPriceSnapshot) :
    UInt32 :=
  if buyVenue = .meteoraDlmm then buySnapshot.feeBps
  else if sellVenue = .meteoraDlmm then sellSnapshot.feeBps
  else 25

/-! ## Where the fee is taken off -/

/-- How `amount * (10000 - fee_bps) / 10000` is computed. -/
abbrev TakeFee := (amount feeBps : ℕ) → Option ℕ

/-- With words that wrap. -/
def wrapping : TakeFee := fun amount feeBps => some (afterFee amount feeBps)

/-- With a check of the subtraction, which panics on an underflow. -/
def underflowChecked : TakeFee := fun amount feeBps => do
  let left ← Checked.sub 10000 feeBps
  pure (amount * left % 2 ^ 128 / 10000)

section

variable (takeFee : TakeFee)

/-- `estimate_dlmm_swap_output_full`, with an exact product of the fee and ten thousand. -/
def estimateFullBy (bins : List DlmmBin) (amountIn : UInt64) (isXToY : Bool) (fee : ℚ) :
    Option DlmmEstimate := do
  let feeBps := asU128 (fee * 10000)
  let left ← takeFee amountIn.toNat feeBps
  let amountAfterFee := left % 2 ^ 64
  if bins = [] ∨ amountAfterFee = 0 then
    pure { out := 0, binsConsumed := 0, binsTotal := 0, consumedBins := [] }
  else
    let active := activeBins bins isXToY
    let walk := walkBins isXToY active amountAfterFee
      { totalOut := 0, binsConsumed := 0, consumedBins := [] }
    pure
      { out := UInt64.ofNat walk.totalOut
        binsConsumed := walk.binsConsumed
        binsTotal := UInt32.ofNat active.length
        consumedBins := walk.consumedBins }

/-- `estimate_dlmm_swap_output`, with an exact product of the fee and ten thousand. -/
def estimateBy (bins : List DlmmBin) (amountIn : ℕ) (isXToY : Bool) (fee : ℚ) : Option ℕ := do
  let feeBps := asU128 (fee * 10000)
  let left ← takeFee amountIn feeBps
  let amountAfterFee := left % 2 ^ 64
  if bins = [] ∨ amountAfterFee = 0 then pure 0
  else pure (fillBins isXToY (activeBins bins isXToY) amountAfterFee 0 % 2 ^ 64)

/-- A swap against reserves. -/
def reservesBy (reserveIn reserveOut : UInt64) (amountIn : ℕ) (feeBps : UInt32) :
    Option ℕ := do
  let eff ← takeFee amountIn feeBps.toNat
  constantProduct eff reserveOut.toNat reserveIn.toNat

/-- `tokens_got`. -/
def tokensGotBy (buy : PoolPriceSnapshot) (quoteIn : ℕ) : Option ℕ :=
  if buy.bins ≠ [] then estimateBy takeFee buy.bins quoteIn (!buy.memeIsX) buy.feeRate
  else reservesBy takeFee buy.solReservesRaw buy.tokenReservesRaw quoteIn buy.feeBps

/-- `quote_back_raw`. -/
def quoteBackRawBy (sell : PoolPriceSnapshot) (tokensGot : ℕ) : Option ℕ :=
  if sell.bins ≠ [] then
    estimateBy takeFee sell.bins (tokensGot % 2 ^ 64) sell.memeIsX sell.feeRate
  else reservesBy takeFee sell.tokenReservesRaw sell.solReservesRaw tokensGot sell.feeBps

/-- `simulate_buy`. -/
def simulateBuyBy (buy : PoolPriceSnapshot) (investment : ℚ) : Option ℕ :=
  tokensGotBy takeFee buy (asU64 (investment * buy.quoteUnit))

/-- `compute_arb_at_investment`. -/
def computeArbBy (s : ArbitrageScanner) (buy sell : PoolPriceSnapshot) (investment : ℚ) :
    Option (ℚ × ℚ) := do
  let quoteUnit := buy.quoteUnit
  let tokensGot ← tokensGotBy takeFee buy (asU64 (investment * quoteUnit))
  let quoteBackRaw ← quoteBackRawBy takeFee sell tokensGot
  let quoteBack := min quoteBackRaw (asU128 (sell.solReservesRaw.toNat * s.maxPoolShare))
  let gross := quoteBack / quoteUnit - investment
  let net := gross - s.cuCostSol
  pure (gross, net)

/-- `refetch_and_verify`. -/
def refetchAndVerifyBy (s : ArbitrageScanner)
    (fetchBinsFresh : String → Option (List DlmmBin)) (dlmmSnap otherSnap : PoolPriceSnapshot)
    (investment : ℚ) (dlmmIsSell : Bool) : Option ℚ := do
  let freshBins ← fetchBinsFresh dlmmSnap.lbPair
  if freshBins = [] then none
  let otherQuoteUnit := otherSnap.quoteUnit
  if dlmmIsSell then
    let quoteIn := asU64 (investment * otherQuoteUnit)
    let tokensGot ← reservesBy takeFee otherSnap.solReservesRaw otherSnap.tokenReservesRaw
      quoteIn otherSnap.feeBps
    let solBackRaw ← estimateBy takeFee freshBins (tokensGot % 2 ^ 64) dlmmSnap.memeIsX
      dlmmSnap.feeRate
    let maxSolOut := asU128
      (min (dlmmSnap.solReservesRaw.toNat * s.maxPoolShare) (s.maxAbsoluteSolOut * 10 ^ 9))
    let solBack := min solBackRaw maxSolOut
    let gross := (solBack : ℚ) / 10 ^ 9 - investment
    pure (gross - s.cuCostSol)
  else
    let solIn := asU64 (investment * 10 ^ 9)
    let tokensGot ← estimateBy takeFee freshBins solIn (!dlmmSnap.memeIsX) dlmmSnap.feeRate
    let quoteBackRaw ← reservesBy takeFee otherSnap.tokenReservesRaw otherSnap.solReservesRaw
      tokensGot otherSnap.feeBps
    let maxOut := asU128 (min (otherSnap.solReservesRaw.toNat * s.maxPoolShare)
      (s.maxAbsoluteSolOut * otherQuoteUnit))
    let quoteBack := min quoteBackRaw maxOut
    let gross := (quoteBack : ℚ) / otherQuoteUnit - investment
    pure (gross - s.cuCostSol)

end

/-! ## With words that wrap -/

section

variable (s : ArbitrageScanner) (buy sell : PoolPriceSnapshot)

theorem estimateFullBy_wrapping (bins : List DlmmBin) (amountIn : UInt64) (isXToY : Bool)
    (fee : ℚ) :
    estimateFullBy wrapping bins amountIn isXToY fee =
      some (estimateDlmmSwapOutputFull bins amountIn isXToY fee) := by
  simp only [estimateFullBy, wrapping, Option.bind_eq_bind, Option.bind_some,
    estimateDlmmSwapOutputFull]
  split
  · rfl
  · rfl

theorem estimateBy_wrapping (bins : List DlmmBin) (amountIn : ℕ) (isXToY : Bool) (fee : ℚ) :
    estimateBy wrapping bins amountIn isXToY fee =
      some (estimateDlmmSwapOutput bins amountIn isXToY fee) := by
  simp only [estimateBy, wrapping, Option.bind_eq_bind, Option.bind_some,
    estimateDlmmSwapOutput]
  split
  · rfl
  · rfl

theorem tokensGotBy_wrapping (quoteIn : ℕ) :
    tokensGotBy wrapping buy quoteIn = buy.tokensGot quoteIn := by
  rw [tokensGotBy, estimateBy_wrapping]
  rfl

theorem quoteBackRawBy_wrapping (tokens : ℕ) :
    quoteBackRawBy wrapping sell tokens = sell.quoteBackRaw tokens := by
  rw [quoteBackRawBy, estimateBy_wrapping]
  rfl

theorem computeArbBy_wrapping (investment : ℚ) :
    computeArbBy wrapping s buy sell investment =
      s.computeArbAtInvestment buy sell investment := by
  simp only [computeArbBy, tokensGotBy_wrapping, quoteBackRawBy_wrapping,
    ArbitrageScanner.computeArbAtInvestment, ArbitrageScanner.quoteBack, bind_assoc, pure_bind]

theorem refetchAndVerifyBy_wrapping (fetchBinsFresh : String → Option (List DlmmBin))
    (investment : ℚ) (dlmmIsSell : Bool) :
    refetchAndVerifyBy wrapping s fetchBinsFresh sell buy investment dlmmIsSell =
      s.refetchAndVerify fetchBinsFresh sell buy investment dlmmIsSell := by
  simp only [refetchAndVerifyBy, estimateBy_wrapping]
  rfl

end

/-! ## With a check of the subtraction -/

section

variable {s : ArbitrageScanner} {buy sell : PoolPriceSnapshot} {feeBps : ℕ}

/-- A fee of at most everything is taken off without an underflow. -/
theorem underflowChecked_eq (fee : feeBps ≤ 10000) (amount : ℕ) :
    underflowChecked amount feeBps = wrapping amount feeBps := by
  have factor : (2 ^ 128 + 10000 - feeBps) % 2 ^ 128 = 10000 - feeBps := by omega
  simp only [underflowChecked, Checked.sub_of_le fee, wrapping, afterFee, factor,
    Option.bind_eq_bind, Option.bind_some]
  rfl

/-- A larger one underflows. -/
theorem underflowChecked_panics (fee : 10000 < feeBps) (amount : ℕ) :
    underflowChecked amount feeBps = none := by
  rw [underflowChecked, Checked.sub_of_lt fee]
  rfl

/-- What is left after a fee is not more than there was. -/
theorem afterFee_le (fee : feeBps ≤ 10000) (amount : ℕ) : afterFee amount feeBps ≤ amount := by
  have factor : (2 ^ 128 + 10000 - feeBps) % 2 ^ 128 = 10000 - feeBps := by omega
  rw [afterFee, factor]
  apply Nat.div_le_of_le_mul
  rw [Nat.mul_comm 10000]
  exact (Nat.mod_le _ _).trans (Nat.mul_le_mul_left amount (Nat.sub_le _ _))

theorem feeRate_bps (snapshot : PoolPriceSnapshot) :
    asU128 (snapshot.feeRate * 10000) = snapshot.feeBps.toNat :=
  asU128_bps (snapshot.feeBps.toNat_lt.trans (by norm_num))

theorem estimateFullBy_checked (fee : feeBps ≤ 10000) (bins : List DlmmBin) (amountIn : UInt64)
    (isXToY : Bool) :
    estimateFullBy underflowChecked bins amountIn isXToY (feeBps / 10000) =
      some (estimateDlmmSwapOutputFull bins amountIn isXToY (feeBps / 10000)) := by
  rw [← estimateFullBy_wrapping, estimateFullBy, asU128_bps (by omega),
    underflowChecked_eq fee, estimateFullBy, asU128_bps (by omega)]

theorem estimateBy_checked {snapshot : PoolPriceSnapshot} (fee : snapshot.feeBps.toNat ≤ 10000)
    (bins : List DlmmBin) (amountIn : ℕ) (isXToY : Bool) :
    estimateBy underflowChecked bins amountIn isXToY snapshot.feeRate =
      estimateBy wrapping bins amountIn isXToY snapshot.feeRate := by
  rw [estimateBy, feeRate_bps, underflowChecked_eq fee, estimateBy, feeRate_bps]

theorem reservesBy_checked {snapshot : PoolPriceSnapshot} (fee : snapshot.feeBps.toNat ≤ 10000)
    (reserveIn reserveOut : UInt64) (amountIn : ℕ) :
    reservesBy underflowChecked reserveIn reserveOut amountIn snapshot.feeBps =
      reservesBy wrapping reserveIn reserveOut amountIn snapshot.feeBps := by
  rw [reservesBy, underflowChecked_eq fee, reservesBy]

theorem tokensGotBy_checked (fee : buy.feeBps.toNat ≤ 10000) (quoteIn : ℕ) :
    tokensGotBy underflowChecked buy quoteIn = tokensGotBy wrapping buy quoteIn := by
  rw [tokensGotBy, estimateBy_checked fee, reservesBy_checked fee, tokensGotBy]

theorem quoteBackRawBy_checked (fee : sell.feeBps.toNat ≤ 10000) (tokens : ℕ) :
    quoteBackRawBy underflowChecked sell tokens = quoteBackRawBy wrapping sell tokens := by
  rw [quoteBackRawBy, estimateBy_checked fee, reservesBy_checked fee, quoteBackRawBy]

theorem computeArbBy_checked (buyFee : buy.feeBps.toNat ≤ 10000)
    (sellFee : sell.feeBps.toNat ≤ 10000) (investment : ℚ) :
    computeArbBy underflowChecked s buy sell investment =
      s.computeArbAtInvestment buy sell investment := by
  rw [← computeArbBy_wrapping]
  simp only [computeArbBy, tokensGotBy_checked buyFee, quoteBackRawBy_checked sellFee]

theorem refetchAndVerifyBy_checked (buyFee : buy.feeBps.toNat ≤ 10000)
    (sellFee : sell.feeBps.toNat ≤ 10000) (fetchBinsFresh : String → Option (List DlmmBin))
    (investment : ℚ) (dlmmIsSell : Bool) :
    refetchAndVerifyBy underflowChecked s fetchBinsFresh sell buy investment dlmmIsSell =
      s.refetchAndVerify fetchBinsFresh sell buy investment dlmmIsSell := by
  rw [← refetchAndVerifyBy_wrapping]
  simp only [refetchAndVerifyBy, estimateBy_checked sellFee, reservesBy_checked buyFee]

end

/-! ## The pipeline -/

theorem toNat_computeFeeBps (binStep baseFactor : UInt16) :
    (computeFeeBps binStep baseFactor).toNat =
      if baseFactor = 0 then 100 else max (binStep.toNat * 10000 / baseFactor.toNat) 1 := by
  have step : binStep.toNat < 2 ^ 16 := binStep.toNat_lt
  have product : binStep.toNat * 10000 % 2 ^ 32 = binStep.toNat * 10000 :=
    Nat.mod_eq_of_lt (by omega)
  rw [computeFeeBps]
  split
  · rfl
  · rw [UInt32.toNat_max, UInt32.toNat_div, UInt32.toNat_mul, UInt16.toNat_toUInt32,
      UInt16.toNat_toUInt32]
    change max (binStep.toNat * 10000 % 2 ^ 32 / _) 1 = _
    rw [product]

/-- A pool has no base factor, or one at which the fee is at most everything. -/
def FeeFits (binStep baseFactor : UInt16) : Prop :=
  baseFactor = 0 ∨ binStep.toNat * 10000 < 10001 * baseFactor.toNat

instance (binStep baseFactor : UInt16) : Decidable (FeeFits binStep baseFactor) :=
  inferInstanceAs (Decidable (_ ∨ _))

theorem computeFeeBps_le_iff (binStep baseFactor : UInt16) :
    (computeFeeBps binStep baseFactor).toNat ≤ 10000 ↔ FeeFits binStep baseFactor := by
  rw [toNat_computeFeeBps, FeeFits]
  split
  · next none => simp [none]
  · next some =>
      have pos : 0 < baseFactor.toNat :=
        Nat.pos_of_ne_zero fun zero => some (UInt16.toNat_inj.mp zero)
      have below : binStep.toNat * 10000 / baseFactor.toNat < 10001 ↔
          binStep.toNat * 10000 < 10001 * baseFactor.toNat := Nat.div_lt_iff_lt_mul pos
      rw [← below]
      simp only [some, false_or]
      omega

/-- The snapshot of a pool carries the fee of the pool. -/
theorem feeBps_of_buildSnapshot {quoteMint : String} {decimals : UInt8} {solPrice : ℚ}
    {pool : DlmmPoolRecord} {snapshot : PoolPriceSnapshot}
    (built : buildSnapshot quoteMint decimals solPrice pool = some snapshot) :
    snapshot.feeBps = computeFeeBps pool.binStep pool.baseFactor := by
  simp only [buildSnapshot] at built
  split at built
  · cases built
    rfl
  · cases built

/-- A side of an opportunity has the fee of the pool, or one that was validated. -/
def PoolPriceSnapshot.Sided (snapshot : PoolPriceSnapshot) (feeBps : UInt32) : Prop :=
  snapshot.feeBps = feeBps ∨ snapshot.feeBps.toNat ≤ 10000

/-- The fee of a pool stays in range from the account to every subtraction: it is at most ten
thousand in the snapshot and in the opportunity, the check of the subtraction changes
nothing in the functions that take it off, and what is left of an amount is not more. -/
structure FeeInRange (binStep baseFactor : UInt16) : Prop where
  computed : (computeFeeBps binStep baseFactor).toNat ≤ 10000
  snapshots : ∀ pools quoteMint decimals solPrice,
    (∀ pool ∈ pools, pool.binStep = binStep ∧ pool.baseFactor = baseFactor) →
      ∀ snapshot ∈ buildSnapshots pools quoteMint decimals solPrice,
        snapshot.feeBps.toNat ≤ 10000
  opportunity : ∀ buyVenue sellVenue buy sell,
    buy.Sided (computeFeeBps binStep baseFactor) →
      sell.Sided (computeFeeBps binStep baseFactor) →
        (dlmmFeeBps buyVenue sellVenue buy sell).toNat ≤ 10000
  estimate : ∀ bins amountIn isXToY,
    let fee : ℚ := (computeFeeBps binStep baseFactor).toNat / 10000
    estimateFullBy underflowChecked bins amountIn isXToY fee =
      some (estimateDlmmSwapOutputFull bins amountIn isXToY fee)
  simulateBuy : ∀ buy investment, buy.Sided (computeFeeBps binStep baseFactor) →
    simulateBuyBy underflowChecked buy investment = ArbitrageScanner.simulateBuy buy investment
  computeArb : ∀ (s : ArbitrageScanner) buy sell investment,
    buy.Sided (computeFeeBps binStep baseFactor) →
      sell.Sided (computeFeeBps binStep baseFactor) →
        computeArbBy underflowChecked s buy sell investment =
          s.computeArbAtInvestment buy sell investment
  refetch : ∀ (s : ArbitrageScanner) fetchBinsFresh dlmmSnap otherSnap investment dlmmIsSell,
    dlmmSnap.Sided (computeFeeBps binStep baseFactor) →
      otherSnap.Sided (computeFeeBps binStep baseFactor) →
        refetchAndVerifyBy underflowChecked s fetchBinsFresh dlmmSnap otherSnap investment
            dlmmIsSell =
          s.refetchAndVerify fetchBinsFresh dlmmSnap otherSnap investment dlmmIsSell
  reduced : ∀ amountIn, afterFee amountIn (computeFeeBps binStep baseFactor).toNat ≤ amountIn

/-- The fee stays in range exactly when it fits where it is computed. -/
theorem feeInRange_iff (binStep baseFactor : UInt16) :
    FeeInRange binStep baseFactor ↔ FeeFits binStep baseFactor := by
  rw [← computeFeeBps_le_iff]
  constructor
  · exact FeeInRange.computed
  · intro fits
    have sided {snapshot : PoolPriceSnapshot}
        (side : snapshot.Sided (computeFeeBps binStep baseFactor)) :
        snapshot.feeBps.toNat ≤ 10000 := by
      cases side with
      | inl same => rw [same]; exact fits
      | inr valid => exact valid
    constructor
    · exact fits
    · intro pools quoteMint decimals solPrice same snapshot inside
      rcases List.mem_filterMap.mp inside with ⟨pool, poolIn, built⟩
      rw [feeBps_of_buildSnapshot built, (same pool poolIn).1, (same pool poolIn).2]
      exact fits
    · intro buyVenue sellVenue buy sell buySide sellSide
      rw [dlmmFeeBps]
      split
      · exact sided buySide
      · split
        · exact sided sellSide
        · decide
    · intro bins amountIn isXToY
      exact estimateFullBy_checked fits bins amountIn isXToY
    · intro buy investment side
      rw [simulateBuyBy, tokensGotBy_checked (sided side), tokensGotBy_wrapping]
      rfl
    · intro s buy sell investment buySide sellSide
      exact computeArbBy_checked (sided buySide) (sided sellSide) investment
    · intro s fetchBinsFresh dlmmSnap otherSnap investment dlmmIsSell dlmmSide otherSide
      exact refetchAndVerifyBy_checked (sided otherSide) (sided dlmmSide) fetchBinsFresh
        investment dlmmIsSell
    · exact afterFee_le fits

/-- A hundred hundredths of a percent with a base factor of one: a fee of a hundred times
the amount. -/
theorem not_feeInRange_sample : ¬∀ binStep baseFactor, FeeInRange binStep baseFactor := by
  intro all
  have checked : estimateFullBy underflowChecked [] 1 true
      ((computeFeeBps 100 1).toNat / 10000) = _ := (all 100 1).estimate [] 1 true
  have fee : (computeFeeBps 100 1).toNat = 1000000 := by decide
  rw [fee, estimateFullBy, asU128_bps (by norm_num),
    underflowChecked_panics (by norm_num)] at checked
  cases checked

end AtomicArbitrage.Bot

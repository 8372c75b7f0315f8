import AtomicArbitrage.Bot.DlmmEstimate
import AtomicArbitrage.Client.Dlmm

/-!
# Prices of the transaction builders

Every builder of a transaction prices both legs of its trade again, takes a tolerance off
what the first one is expected to yield, and tests the profit that remains.  Amounts in floating
point are read as exact rationals.
-/

namespace AtomicArbitrage.Bot

open Outcome

/-! ## What the builders read -/

/-- What the builders read of an `AppConfig`. -/
structure BuilderConfig where
  slippageToleranceBps : UInt32
  minProfitThresholdSol : ℚ
  pumpswapFeeBps : UInt32
  pumpfunFeeBps : UInt32
  computeUnitPriceMicroLamports : UInt64
  computeUnitLimit : UInt32

/-- What the builders read of an `ArbitrageOpportunity`. -/
structure BuilderOpportunity where
  investmentSol : ℚ
  netProfitSol : ℚ
  dlmmFeeBps : UInt32

/-- What the builders read of a cached DLMM pool: its addresses, and its reserves. -/
structure CachedDlmm extends Client.DlmmPoolReserves where
  reserveX : UInt64
  reserveY : UInt64

def CachedDlmm.solIsX (dlmm : CachedDlmm) : Bool := dlmm.tokenXMint = Client.nativeSolMint

/-- The reserves of a pool, those of SOL first. -/
def CachedDlmm.reserves (dlmm : CachedDlmm) : UInt64 × UInt64 :=
  if dlmm.solIsX then (dlmm.reserveX, dlmm.reserveY) else (dlmm.reserveY, dlmm.reserveX)

/-- Why a builder gives up. -/
inductive BuildError where
  | poolNotFound
  | notCached
  | fetchFailed
  | overflow
  | noEstimate
  /-- "R2-M01 reject", with the net profit that it prints. -/
  | rejected (freshNet : ℚ)
  | notAssembled
  /-- An address that does not parse. -/
  | client (error : Client.ClientError)
  /-- A division by nothing. -/
  | panic
deriving DecidableEq

abbrev BuildResult := Except BuildError

/-- A step of the client within a builder. -/
def ofClient {α : Type} (step : Client.ClientResult α) : BuildResult α :=
  step.mapError .client

theorem ofClient_eq_ok {α : Type} {step : Client.ClientResult α} {value : α} :
    ofClient step = .ok value ↔ step = .ok value := by
  cases step with
  | error reason => exact iff_of_false (fun same => by cases same) (fun same => by cases same)
  | ok found => exact ⟨fun same => by cases same; rfl, fun same => by cases same; rfl⟩

/-! ## Slippage -/

/-- `compute_effective_slippage`. -/
def computeEffectiveSlippage (amountIn reserveIn : UInt64) (baseToleranceBps : UInt32) : ℚ :=
  let base : ℚ := baseToleranceBps.toNat / 10000
  if reserveIn = 0 then 1 - base
  else
    let impactRatio : ℚ := amountIn.toNat / reserveIn.toNat
    let multiplier : ℚ :=
      if impactRatio > 1 / 100 then 5 / 2
      else if impactRatio > 1 / 1000 then 3 / 2
      else 1
    1 - base * multiplier

/-- The least amount that a leg may yield. -/
def minAmountOut (estimate : UInt64) (slippage : ℚ) : UInt64 :=
  UInt64.ofNat (asU64 (estimate.toNat * slippage))

/-! ## Profit -/

/-- `compute_cu_cost_sol`. -/
def computeCuCostSol (config : BuilderConfig) : ℚ :=
  config.computeUnitPriceMicroLamports.toNat * config.computeUnitLimit.toNat / 1000000 /
    1000000000 + 5 / 1000000

/-- `fresh_net`, for what the second leg is expected to yield. -/
def freshNet (opp : BuilderOpportunity) (config : BuilderConfig) (solOutEst : UInt64) : ℚ :=
  let freshGross := solOutEst.toNat / 1000000000 - opp.investmentSol
  freshGross - computeCuCostSol config

/-- The test of the net profit. -/
def testProfit (opp : BuilderOpportunity) (config : BuilderConfig) (solOutEst : UInt64) :
    BuildResult Unit :=
  require (¬freshNet opp config solOutEst < config.minProfitThresholdSol)
    (.rejected (freshNet opp config solOutEst))

section

variable {amountIn reserveIn : UInt64} {baseToleranceBps : UInt32} {opp : BuilderOpportunity}
  {config : BuilderConfig}

/-- The tolerance is taken off at least once. -/
theorem computeEffectiveSlippage_eq (amountIn reserveIn : UInt64) (baseToleranceBps : UInt32) :
    ∃ multiplier : ℚ, 1 ≤ multiplier ∧
      computeEffectiveSlippage amountIn reserveIn baseToleranceBps =
        1 - baseToleranceBps.toNat / 10000 * multiplier := by
  simp only [computeEffectiveSlippage]
  split
  · exact ⟨1, le_refl 1, by rw [mul_one]⟩
  · refine ⟨_, ?_, rfl⟩
    split
    · norm_num
    · split
      · norm_num
      · exact le_refl 1

theorem computeEffectiveSlippage_of_zero :
    computeEffectiveSlippage amountIn reserveIn 0 = 1 := by
  rcases computeEffectiveSlippage_eq amountIn reserveIn 0 with ⟨multiplier, _, same⟩
  rw [same, UInt32.toNat_zero, Nat.cast_zero, zero_div, zero_mul, sub_zero]

theorem computeEffectiveSlippage_lt_one (tolerant : baseToleranceBps ≠ 0) :
    computeEffectiveSlippage amountIn reserveIn baseToleranceBps < 1 := by
  rcases computeEffectiveSlippage_eq amountIn reserveIn baseToleranceBps with
    ⟨multiplier, large, same⟩
  have pos : 0 < baseToleranceBps.toNat := by
    rw [Nat.pos_iff_ne_zero]
    intro zero
    exact tolerant (UInt32.toNat_inj.mp zero)
  have base : (0 : ℚ) < baseToleranceBps.toNat / 10000 :=
    div_pos (Nat.cast_pos.mpr pos) (by norm_num)
  rw [same]
  exact sub_lt_self 1 (mul_pos base (zero_lt_one.trans_le large))

theorem minAmountOut_toNat (estimate : UInt64) (slippage : ℚ) :
    (minAmountOut estimate slippage).toNat = asU64 (estimate.toNat * slippage) :=
  UInt64.toNat_ofNat_of_lt' (asU64_lt _)

theorem minAmountOut_one (estimate : UInt64) : minAmountOut estimate 1 = estimate := by
  rw [← UInt64.toNat_inj, minAmountOut_toNat, mul_one, asU64,
    Saturating.cast_natCast estimate.toNat_lt]

theorem minAmountOut_zero (slippage : ℚ) : minAmountOut 0 slippage = 0 := by
  rw [← UInt64.toNat_inj, minAmountOut_toNat, UInt64.toNat_zero, Nat.cast_zero, zero_mul, asU64,
    Saturating.cast, Nat.floor_zero, Nat.zero_min]

/-- A tolerance takes at least one unit off. -/
theorem minAmountOut_lt {estimate : UInt64} {slippage : ℚ} (some : estimate ≠ 0)
    (below : slippage < 1) : minAmountOut estimate slippage < estimate := by
  have pos : 0 < estimate.toNat := Nat.pos_of_ne_zero fun zero => some (UInt64.toNat_inj.mp zero)
  have less : (estimate.toNat : ℚ) * slippage < estimate.toNat :=
    mul_lt_of_lt_one_right (Nat.cast_pos.mpr pos) below
  rw [UInt64.lt_iff_toNat_lt, minAmountOut_toNat]
  exact (min_le_left _ _).trans_lt ((Nat.floor_lt' pos.ne').mpr less)

/-- What a leg is expected to yield is not more than the least that it may yield exactly
where it is nothing, or where nothing is tolerated. -/
theorem le_minAmountOut_iff {estimate : UInt64} :
    estimate ≤ minAmountOut estimate
        (computeEffectiveSlippage amountIn reserveIn baseToleranceBps) ↔
      estimate = 0 ∨ baseToleranceBps = 0 := by
  constructor
  · intro covered
    by_contra neither
    rcases not_or.mp neither with ⟨some, tolerant⟩
    exact absurd covered
      (UInt64.not_le.mpr (minAmountOut_lt some (computeEffectiveSlippage_lt_one tolerant)))
  · intro either
    cases either with
    | inl zero =>
        rw [zero, minAmountOut_zero]
        exact UInt64.le_refl 0
    | inr strict =>
        rw [strict, computeEffectiveSlippage_of_zero, minAmountOut_one]
        exact UInt64.le_refl estimate

theorem freshNet_le {less more : UInt64} (le : less ≤ more) :
    freshNet opp config less ≤ freshNet opp config more := by
  have words : (less.toNat : ℚ) ≤ more.toNat := Nat.cast_le.mpr (UInt64.le_iff_toNat_le.mp le)
  simp only [freshNet]
  gcongr

theorem freshNet_le_iff {less more : UInt64} :
    freshNet opp config less ≤ freshNet opp config more ↔ less ≤ more := by
  constructor
  · intro nets
    by_contra above
    have words : (more.toNat : ℚ) < less.toNat :=
      Nat.cast_lt.mpr (UInt64.lt_iff_toNat_lt.mp (UInt64.not_le.mp above))
    have larger : freshNet opp config more < freshNet opp config less := by
      simp only [freshNet]
      gcongr
    exact absurd nets (not_le.mpr larger)
  · exact freshNet_le

/-- Nothing in return is no profit. -/
theorem freshNet_zero_lt (threshold : 0 < config.minProfitThresholdSol)
    (investment : 0 ≤ opp.investmentSol) :
    freshNet opp config 0 < config.minProfitThresholdSol := by
  have cost : 0 ≤ computeCuCostSol config := by
    rw [computeCuCostSol]
    positivity
  simp only [freshNet, UInt64.toNat_zero, Nat.cast_zero, zero_div, zero_sub]
  linarith

end

end AtomicArbitrage.Bot

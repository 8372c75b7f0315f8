import AtomicArbitrage.Bot.DlmmEstimate
import AtomicArbitrage.Library.GoldenSection

/-!
# Sizing an investment

The scanner caps an investment by shares of both pools, by absolute maxima and by the
tokens that the sell pool can take, and searches below these caps for the investment of the
best net profit.  The tokens are capped through a binary search on the simulated purchase,
the profit by a golden-section search that keeps one of its two probes at every step.
-/

namespace AtomicArbitrage.Bot

open ConstantProduct GoldenSection

/-- What `estimate_profit` reads of an `ArbitrageScanner` besides the simulation. -/
structure SizingScanner extends ArbitrageScanner where
  maxInvestmentSol : ℚ
  minPriceDiffBps : UInt32

/-- `MIN_INVEST`. -/
def minInvest : ℚ := 1 / 1000

def phi : ℚ := 1618033988749895 / 10 ^ 15
def invPhi : ℚ := 1 / phi

namespace SizingScanner

/-! ## The searches

A result `none` is a panic of a simulation. -/

/-- The loop of the binary search. -/
def capacityLoop (buy : PoolPriceSnapshot) (maxTokens : ℕ) : ℕ → (lo hi : ℚ) → Option ℚ
  | 0, lo, _ => some lo
  | n + 1, lo, hi => do
      let mid := (lo + hi) / 2
      let tokens ← ArbitrageScanner.simulateBuy buy mid
      if tokens ≤ maxTokens then capacityLoop buy maxTokens n mid hi
      else capacityLoop buy maxTokens n lo mid

/-- `find_max_invest_within_capacity`. -/
def findMaxInvestWithinCapacity (buy : PoolPriceSnapshot) (maxInvest : ℚ) (maxTokens : ℕ) :
    Option ℚ := do
  let tokensAtMax ← ArbitrageScanner.simulateBuy buy maxInvest
  if tokensAtMax ≤ maxTokens then pure maxInvest
  else capacityLoop buy maxTokens 12 0 maxInvest

/-- The loop of the golden-section search, with the net profits at the two probes. -/
def goldenLoop (net : ℚ → Option ℚ) : ℕ → Bracket ℚ → (fc fd : ℚ) → Option (Bracket ℚ)
  | 0, s, _, _ => some s
  | n + 1, s, fc, fd =>
      if fc > fd then do
        let s := s.left invPhi
        let fc' ← net s.c
        goldenLoop net n s fc' fc
      else do
        let s := s.right invPhi
        let fd' ← net s.d
        goldenLoop net n s fd fd'

variable (s : SizingScanner)

/-- `golden_search_profit`: the best investment with its gross and its net profit. -/
def goldenSearchProfit (buy sell : PoolPriceSnapshot) (lo hi : ℚ) : Option (ℚ × ℚ × ℚ) := do
  let net := fun investment => (s.computeArbAtInvestment buy sell investment).map Prod.snd
  let probes := Bracket.start invPhi lo hi
  let fc ← net probes.c
  let fd ← net probes.d
  let bracket ← goldenLoop net 12 probes fc fd
  let best := (bracket.a + bracket.b) / 2
  let (gross, net) ← s.computeArbAtInvestment buy sell best
  pure (best, gross, net)

/-- `confidence`. -/
def confidence (priceDiffBps : UInt32) (bestInvest : ℚ) : ℚ :=
  let priceConfidence :=
    max 0 (min 1 ((priceDiffBps.toNat : ℚ) / (max s.minPriceDiffBps 1).toNat - 1))
  let depthConfidence := min (bestInvest / s.maxInvestmentSol) 1
  (priceConfidence + depthConfidence) / 2

/-- `estimate_profit`: the investment, its gross and its net profit, and a confidence. -/
def estimateProfit (buy sell : PoolPriceSnapshot) (priceDiffBps : UInt32) :
    Option (ℚ × ℚ × ℚ × ℚ) := do
  if buy.solReservesRaw = 0 ∨ buy.tokenReservesRaw = 0 ∨ sell.solReservesRaw = 0 ∨
      sell.tokenReservesRaw = 0 then
    return (0, 0, 0, 0)
  let quoteUnit := buy.quoteUnit
  let quoteCap := buy.solReservesRaw.toNat / quoteUnit * s.maxPoolShare
  let maxInvest := min quoteCap s.maxInvestmentSol
  if maxInvest < minInvest then
    return (0, 0, 0, 0)
  let maxTokens := asU128 (sell.tokenReservesRaw.toNat * s.maxPoolShare)
  if maxTokens = 0 then
    return (0, 0, 0, 0)
  let upper ← findMaxInvestWithinCapacity buy maxInvest maxTokens
  if upper < minInvest then
    return (0, 0, 0, 0)
  let maxOut := min (sell.solReservesRaw.toNat / quoteUnit * s.maxPoolShare)
    s.maxAbsoluteSolOut
  let upper := min upper (maxOut * (6 / 5))
  if upper < minInvest then
    return (0, 0, 0, 0)
  let (bestInvest, gross, net) ← s.goldenSearchProfit buy sell minInvest upper
  return (bestInvest, gross, net, s.confidence priceDiffBps bestInvest)

/-- An investment is within all caps. -/
structure WithinCaps (buy sell : PoolPriceSnapshot) (investment : ℚ) : Prop where
  minimum : minInvest ≤ investment
  maximum : investment ≤ s.maxInvestmentSol
  buyShare : investment ≤ s.maxPoolShare * (buy.solReservesRaw.toNat / buy.quoteUnit)
  sellShare : investment ≤
    6 / 5 * min (s.maxPoolShare * (sell.solReservesRaw.toNat / sell.quoteUnit))
      s.maxAbsoluteSolOut
  capacity : ∃ tokens, ArbitrageScanner.simulateBuy buy investment = some tokens ∧
    tokens ≤ ⌊s.maxPoolShare * sell.tokenReservesRaw.toNat⌋₊

end SizingScanner

/-! ## Purchases -/

namespace PoolPriceSnapshot

variable (buy : PoolPriceSnapshot)

/-- The tokens that a raw quote amount buys. -/
def bought (quoteIn : UInt64) : ℕ :=
  let left := leftAfterFee quoteIn buy.feeBps.toNat
  if buy.bins ≠ [] then binsPay buy.bins (!buy.memeIsX) left
  else output buy.solReservesRaw.toNat buy.tokenReservesRaw.toNat left

variable {buy}

theorem simulateBuy_eq (held : buy.solReservesRaw ≠ 0) (fee : buy.feeBps ≤ 10000)
    (fits : SupplyFits buy.bins) (investment : ℚ) :
    ArbitrageScanner.simulateBuy buy investment =
      some (buy.bought (UInt64.ofNat (asU64 (investment * buy.quoteUnit)))) := by
  have le : buy.feeBps.toNat ≤ 10000 := UInt32.le_iff_toNat_le.mp fee
  have word : (UInt64.ofNat (asU64 (investment * buy.quoteUnit))).toNat =
      asU64 (investment * buy.quoteUnit) := UInt64.toNat_ofNat_of_lt' (asU64_lt _)
  simp only [ArbitrageScanner.simulateBuy, bought]
  generalize UInt64.ofNat (asU64 (investment * buy.quoteUnit)) = quoteIn at word ⊢
  rw [← word]
  split
  · rw [buyFromBins, estimateDlmmSwapOutput_eq, feeRate, out_estimateFull fits _ _ le]
  · rw [buyFromReserves, constantProduct_afterFee held fee, afterFee_word _ le, ← leftAfterFee]

theorem bought_mono (held : buy.solReservesRaw ≠ 0) {less more : UInt64} (le : less ≤ more) :
    buy.bought less ≤ buy.bought more := by
  have reserve : 0 < buy.solReservesRaw.toNat :=
    Nat.pos_of_ne_zero fun zero => held (UInt64.toNat_inj.mp zero)
  have left := leftAfterFee_mono le buy.feeBps.toNat
  simp only [bought]
  split
  · exact binsPay_mono _ _ left
  · exact output_mono reserve _ left

theorem bought_nothing : buy.bought 0 = 0 := by
  have left : leftAfterFee 0 buy.feeBps.toNat = 0 := by simp [leftAfterFee]
  simp only [bought, left, binsPay_zero, output_nothing, ite_self]

end PoolPriceSnapshot

namespace SizingScanner

section

variable {buy sell : PoolPriceSnapshot} {maxTokens : ℕ}

/-- An investment buys at most so many tokens. -/
def Affords (buy : PoolPriceSnapshot) (maxTokens : ℕ) (investment : ℚ) : Prop :=
  ∃ tokens, ArbitrageScanner.simulateBuy buy investment = some tokens ∧ tokens ≤ maxTokens

/-- A smaller investment does not buy more. -/
theorem Affords.mono (held : buy.solReservesRaw ≠ 0) (fee : buy.feeBps ≤ 10000)
    (fits : SupplyFits buy.bins) {less more : ℚ} (le : less ≤ more)
    (affords : Affords buy maxTokens more) : Affords buy maxTokens less := by
  rcases affords with ⟨tokens, bought, within⟩
  rw [PoolPriceSnapshot.simulateBuy_eq held fee fits] at bought
  refine ⟨_, PoolPriceSnapshot.simulateBuy_eq held fee fits less, ?_⟩
  have words : asU64 (less * buy.quoteUnit) ≤ asU64 (more * buy.quoteUnit) :=
    Saturating.cast_mono (mul_le_mul_of_nonneg_right le buy.quoteUnit_pos.le)
  have amounts : UInt64.ofNat (asU64 (less * buy.quoteUnit)) ≤
      UInt64.ofNat (asU64 (more * buy.quoteUnit)) := by
    rw [UInt64.le_iff_toNat_le, UInt64.toNat_ofNat_of_lt' (asU64_lt _),
      UInt64.toNat_ofNat_of_lt' (asU64_lt _)]
    exact words
  exact (PoolPriceSnapshot.bought_mono held amounts).trans
    ((Option.some_inj.mp bought).le.trans within)

theorem affords_zero (held : buy.solReservesRaw ≠ 0) (fee : buy.feeBps ≤ 10000)
    (fits : SupplyFits buy.bins) : Affords buy maxTokens 0 := by
  refine ⟨_, PoolPriceSnapshot.simulateBuy_eq held fee fits 0, ?_⟩
  have nothing : asU64 (0 * buy.quoteUnit) = 0 := by simp [asU64, Saturating.cast]
  rw [nothing]
  exact PoolPriceSnapshot.bought_nothing.le.trans (Nat.zero_le _)

/-- The binary search stays below its upper bound and at what is affordable. -/
theorem capacityLoop_spec (held : buy.solReservesRaw ≠ 0) (fee : buy.feeBps ≤ 10000)
    (fits : SupplyFits buy.bins) (n : ℕ) {lo hi : ℚ} (le : lo ≤ hi)
    (affords : Affords buy maxTokens lo) :
    ∃ found, capacityLoop buy maxTokens n lo hi = some found ∧ found ≤ hi ∧
      Affords buy maxTokens found := by
  induction n generalizing lo hi with
  | zero => exact ⟨lo, rfl, le, affords⟩
  | succ n ih =>
      have simulated := PoolPriceSnapshot.simulateBuy_eq held fee fits ((lo + hi) / 2)
      rw [capacityLoop, simulated]
      simp only [Option.bind_eq_bind, Option.bind_some]
      split
      · next within => exact ih (by linarith) ⟨_, simulated, within⟩
      · have lower : lo ≤ (lo + hi) / 2 := by linarith
        rcases ih lower affords with ⟨found, search, below, within⟩
        exact ⟨found, search, by linarith, within⟩

theorem findMaxInvestWithinCapacity_spec (held : buy.solReservesRaw ≠ 0)
    (fee : buy.feeBps ≤ 10000) (fits : SupplyFits buy.bins) {maxInvest : ℚ}
    (nonneg : 0 ≤ maxInvest) (maxTokens : ℕ) :
    ∃ found, findMaxInvestWithinCapacity buy maxInvest maxTokens = some found ∧
      found ≤ maxInvest ∧ Affords buy maxTokens found := by
  have simulated := PoolPriceSnapshot.simulateBuy_eq held fee fits maxInvest
  rw [findMaxInvestWithinCapacity, simulated]
  simp only [Option.bind_eq_bind, Option.bind_some]
  split
  · next within => exact ⟨maxInvest, rfl, le_rfl, _, simulated, within⟩
  · exact capacityLoop_spec held fee fits 12 nonneg (affords_zero held fee fits)

/-- The constant of the search is the golden ratio up to a millionth of a millionth. -/
theorem golden_invPhi : Bracket.Golden invPhi (1 / 10 ^ 12) where
  low := by norm_num [invPhi, phi]
  high := by norm_num [invPhi, phi]
  solves := by
    rw [abs_le]
    constructor
    · norm_num [invPhi, phi]
    · norm_num [invPhi, phi]

/-- Twelve narrowings do not make much of that. -/
theorem grown_small : Bracket.grown (1 / 10 ^ 12 : ℚ) 12 0 ≤ 1 / 10 := by
  norm_num [Bracket.grown]

/-- The loop narrows the bracket once in each round. -/
theorem goldenLoop_moves {net : ℚ → Option ℚ} {n : ℕ} {s t : Bracket ℚ} {fc fd : ℚ}
    (narrowed : goldenLoop net n s fc fd = some t) : Bracket.Moves invPhi n s t := by
  induction n generalizing s fc fd with
  | zero =>
      cases narrowed
      exact .stop _
  | succ n ih =>
      rw [goldenLoop] at narrowed
      split at narrowed
      · rcases Option.bind_eq_some_iff.mp narrowed with ⟨_, _, rest⟩
        exact .left (ih rest)
      · rcases Option.bind_eq_some_iff.mp narrowed with ⟨_, _, rest⟩
        exact .right (ih rest)

theorem exists_goldenLoop {net : ℚ → Option ℚ} (total : ∀ investment, ∃ value,
    net investment = some value) (n : ℕ) (s : Bracket ℚ) (fc fd : ℚ) :
    ∃ t, goldenLoop net n s fc fd = some t := by
  induction n generalizing s fc fd with
  | zero => exact ⟨s, rfl⟩
  | succ n ih =>
      rw [goldenLoop]
      split
      · rcases total (s.left invPhi).c with ⟨value, priced⟩
        simp only [priced, Option.bind_eq_bind, Option.bind_some]
        exact ih _ _ _
      · rcases total (s.right invPhi).d with ⟨value, priced⟩
        simp only [priced, Option.bind_eq_bind, Option.bind_some]
        exact ih _ _ _

/-- The best investment lies between the bounds of the search. -/
theorem goldenSearchProfit_spec (s : SizingScanner) (buyTraded : buy.Traded)
    (sellTraded : sell.Traded) {lo hi : ℚ} (le : lo ≤ hi) :
    ∃ best gross net, s.goldenSearchProfit buy sell lo hi = some (best, gross, net) ∧
      lo ≤ best ∧ best ≤ hi := by
  have computes (investment : ℚ) :
      ∃ profit, s.computeArbAtInvestment buy sell investment = some profit := by
    rcases ArbitrageScanner.exists_quoteBack (s := s.toArbitrageScanner) buyTraded sellTraded
      (asU64 (investment * buy.quoteUnit)) with ⟨quoteBack, back⟩
    rw [ArbitrageScanner.computeArbAtInvestment_eq, back]
    exact ⟨_, rfl⟩
  have total (investment : ℚ) : ∃ value,
      (s.computeArbAtInvestment buy sell investment).map Prod.snd = some value := by
    rcases computes investment with ⟨profit, computed⟩
    exact ⟨profit.2, by rw [computed]; rfl⟩
  rcases total (Bracket.start invPhi lo hi).c with ⟨fc, atC⟩
  rcases total (Bracket.start invPhi lo hi).d with ⟨fd, atD⟩
  rcases exists_goldenLoop total 12 (Bracket.start invPhi lo hi) fc fd with ⟨bracket, narrowed⟩
  rcases computes ((bracket.a + bracket.b) / 2) with ⟨⟨gross, net⟩, computed⟩
  have inside := (goldenLoop_moves narrowed).ordered (Bracket.near_start le) golden_invPhi
    grown_small
  rcases inside with ⟨ordered, low, high⟩
  refine ⟨(bracket.a + bracket.b) / 2, gross, net, ?_, ?_, ?_⟩
  · simp only [goldenSearchProfit, atC, atD, narrowed, computed, Option.bind_eq_bind,
      Option.bind_some]
    rfl
  · exact low.trans ordered.middle_mem.1
  · exact ordered.middle_mem.2.trans high

end

/-- For two pools quoted in one unit, with a fee of at most everything on the purchase and
bins that hold no more than there can be, the estimate returns nothing or an investment
within every cap. -/
theorem estimateProfit_withinCaps (s : SizingScanner) (buy sell : PoolPriceSnapshot)
    (priceDiffBps : UInt32) (decimals : buy.quoteDecimals = sell.quoteDecimals)
    (fee : buy.feeBps ≤ 10000) (fits : SupplyFits buy.bins) :
    ∃ estimate, s.estimateProfit buy sell priceDiffBps = some estimate ∧
      (estimate = (0, 0, 0, 0) ∨ s.WithinCaps buy sell estimate.1) := by
  rw [estimateProfit]
  split
  · exact ⟨_, rfl, .inl rfl⟩
  next stocked =>
  simp only [not_or] at stocked
  have buyTraded : buy.Traded := ⟨stocked.1, stocked.2.1⟩
  have sellTraded : sell.Traded := ⟨stocked.2.2.1, stocked.2.2.2⟩
  simp only
  split
  · exact ⟨_, rfl, .inl rfl⟩
  next large =>
  split
  · exact ⟨_, rfl, .inl rfl⟩
  have nonneg : (0 : ℚ) ≤ minInvest := by norm_num [minInvest]
  rcases findMaxInvestWithinCapacity_spec buyTraded.sol fee fits
    (nonneg.trans (not_lt.mp large)) (asU128 (sell.tokenReservesRaw.toNat * s.maxPoolShare)) with
    ⟨upper, searched, below, affords⟩
  simp only [searched, Option.bind_eq_bind, Option.bind_some]
  split
  · exact ⟨_, rfl, .inl rfl⟩
  split
  · exact ⟨_, rfl, .inl rfl⟩
  next room =>
  rcases s.goldenSearchProfit_spec buyTraded sellTraded (not_lt.mp room) with
    ⟨best, gross, net, searched, low, high⟩
  have atUpper : best ≤ upper := high.trans (min_le_left _ _)
  simp only [searched, Option.bind_some]
  refine ⟨_, rfl, .inr ?_⟩
  exact {
    minimum := low
    maximum := (atUpper.trans below).trans (min_le_right _ _)
    buyShare := by
      rw [mul_comm]
      exact (atUpper.trans below).trans (min_le_left _ _)
    sellShare := by
      rw [mul_comm, mul_comm s.maxPoolShare, ← PoolPriceSnapshot.quoteUnit_inj.mpr decimals]
      exact high.trans (min_le_right _ _)
    capacity := by
      rcases affords.mono buyTraded.sol fee fits atUpper with ⟨tokens, bought, within⟩
      rw [mul_comm s.maxPoolShare]
      exact ⟨tokens, bought, within.trans (min_le_left _ _)⟩ }

/-- Limits of ten SOL and of a fiftieth of a pool. -/
def sample : SizingScanner where
  toArbitrageScanner := ArbitrageScanner.sampleScanner
  maxInvestmentSol := 10
  minPriceDiffBps := 50

/-- A pool that pays more for the token. -/
def sampleDearPool : PoolPriceSnapshot :=
  { ArbitrageScanner.sampleReservesPool with tokenReservesRaw := 900000000000 }

theorem estimateProfit_withinCaps_sample :
    ∃ estimate,
      sample.estimateProfit ArbitrageScanner.sampleReservesPool sampleDearPool 100 =
          some estimate ∧
        sample.WithinCaps ArbitrageScanner.sampleReservesPool sampleDearPool estimate.1 := by
  rcases estimateProfit_withinCaps sample ArbitrageScanner.sampleReservesPool sampleDearPool 100
    rfl (by decide) ⟨by decide, by decide⟩ with ⟨estimate, computed, nothing | within⟩
  · have something : sample.estimateProfit ArbitrageScanner.sampleReservesPool sampleDearPool
        100 ≠ some (0, 0, 0, 0) := by decide +kernel
    exact absurd (nothing ▸ computed) something
  · exact ⟨estimate, computed, within⟩

end SizingScanner

end AtomicArbitrage.Bot

import AtomicArbitrage.Bot.BuilderPricing
import AtomicArbitrage.Bot.WhirlpoolDecode

/-!
# Builders that sell on DLMM

Three builders buy on another exchange and sell on DLMM.  Each estimates the sale over the
fresh bins, tests the profit with the estimate and returns it.  The bins may yield nothing:
one builder gives up then, and two go on with half of the tokens, counted as lamports.
-/

namespace AtomicArbitrage.Bot

open Outcome

/-! ## The builders -/

/-- What a builder has worked out of its first leg. -/
structure BuyLeg where
  investmentLamports : UInt64
  memeOutEst : UInt64
  minMemeOut : UInt64
deriving DecidableEq

/-- What a builder returns. -/
structure BuiltTx where
  txBytes : List UInt8
  memeOutEst : UInt64
  solOutEst : UInt64
deriving DecidableEq

/-- The rest of a builder: the sections, the instructions, the lookup table, the message and
its signature. -/
abbrev Assemble := BuyLeg → Option (List UInt8)

/-- What the three builders are given, and what they find in the cache and fetch. -/
structure DlmmSale where
  opp : BuilderOpportunity
  config : BuilderConfig
  investmentLamports : UInt64
  dlmm : Option CachedDlmm
  freshBins : Option (List DlmmBin)

/-- `CPMM_DEFAULT_TRADE_FEE_RATE`. -/
def cpmmDefaultTradeFeeRate : UInt64 := 2500

/-- A first leg that yields an amount and is cut by the tolerance. -/
def buyLeg (config : BuilderConfig) (investmentLamports reserveIn memeOutEst : UInt64) :
    BuyLeg where
  investmentLamports := investmentLamports
  memeOutEst := memeOutEst
  minMemeOut := minAmountOut memeOutEst
    (computeEffectiveSlippage investmentLamports reserveIn config.slippageToleranceBps)

/-- The purchase on PumpSwap, of at most a third of the reserves. -/
def pumpBuyLeg (config : BuilderConfig) (investmentLamports freshSolRes freshTokRes : UInt64) :
    BuildResult BuyLeg := do
  let maxInvestment := freshSolRes / 3
  let investmentLamports :=
    if freshSolRes > 0 ∧ investmentLamports > maxInvestment then maxInvestment
    else investmentLamports
  let memeOutEst ← orFail (checkedPumpswapBuyOutput investmentLamports freshSolRes freshTokRes
    config.pumpswapFeeBps) .overflow
  pure (buyLeg config investmentLamports freshSolRes memeOutEst)

/-- The purchase on a Whirlpool, of at most a third of the reserves. -/
def whirlpoolBuyLeg (config : BuilderConfig) (investmentLamports : UInt64)
    (wp : WhirlpoolReserves) : BuildResult BuyLeg := do
  let wpSol := if wp.tokenXMint = Client.nativeSolMint then wp.reserveX else wp.reserveY
  let wpMeme := if wp.tokenXMint = Client.nativeSolMint then wp.reserveY else wp.reserveX
  let maxInv := wpSol / 3
  let investmentLamports := min investmentLamports (max maxInv 1)
  let memeOutEst ← orFail (checkedCpSwapOutput wpSol wpMeme investmentLamports
    (.ofNat wp.feeRate)) .overflow
  pure (buyLeg config investmentLamports wpSol memeOutEst)

/-- The purchase on a CPMM pool. -/
def cpmmBuyLeg (config : BuilderConfig) (investmentLamports : UInt64) (cpmm : PoolStateData) :
    BuildResult BuyLeg := do
  let cpmmSol :=
    if cpmm.token0Mint = Client.nativeSolMint then cpmm.token0VaultRaw else cpmm.token1VaultRaw
  let cpmmMeme :=
    if cpmm.token0Mint = Client.nativeSolMint then cpmm.token1VaultRaw else cpmm.token0VaultRaw
  let memeOut ← orFail (checkedCpSwapOutput cpmmSol cpmmMeme investmentLamports
    cpmmDefaultTradeFeeRate) .overflow
  pure (buyLeg config investmentLamports cpmmSol memeOut)

namespace DlmmSale

variable (t : DlmmSale)

/-- The estimate of the sale on the fresh bins. -/
def estimate (dlmm : CachedDlmm) (freshBins : List DlmmBin) (amount : UInt64) : DlmmEstimate :=
  let dlmmFeeRate : ℚ := t.opp.dlmmFeeBps.toNat / 10000
  estimateDlmmSwapOutputFull freshBins amount (!dlmm.solIsX) dlmmFeeRate

/-- The test of the profit and the rest of a builder. -/
def finish (assemble : Assemble) (leg : BuyLeg) (solOutEst : UInt64) : BuildResult BuiltTx := do
  testProfit t.opp t.config solOutEst
  let txBytes ← orFail (assemble leg) .notAssembled
  pure { txBytes, memeOutEst := leg.memeOutEst, solOutEst }

/-- `build_onchain_pump_to_dlmm_tx`. -/
def buildOnchainPumpToDlmmTx (pool : Option Pubkey)
    (fetchReserves : Pubkey → Option (UInt64 × UInt64)) (assemble : Assemble) :
    BuildResult BuiltTx := do
  let pool ← orFail pool .poolNotFound
  let dlmm ← orFail t.dlmm .notCached
  let (freshSolRes, freshTokRes) ← orFail (fetchReserves pool) .fetchFailed
  let freshBins ← orFail t.freshBins .fetchFailed
  let leg ← pumpBuyLeg t.config t.investmentLamports freshSolRes freshTokRes
  let dlmmEst := t.estimate dlmm freshBins leg.minMemeOut
  if dlmmEst.out = 0 then .error .noEstimate
  else t.finish assemble leg dlmmEst.out

/-- `build_onchain_whirlpool_to_dlmm_tx`. -/
def buildOnchainWhirlpoolToDlmmTx (wpReserves : Option WhirlpoolReserves) (assemble : Assemble) :
    BuildResult BuiltTx := do
  let wpReserves ← orFail wpReserves .notCached
  let dlmm ← orFail t.dlmm .notCached
  let leg ← whirlpoolBuyLeg t.config t.investmentLamports wpReserves
  let freshBins ← orFail t.freshBins .fetchFailed
  let dlmmEst := t.estimate dlmm freshBins leg.minMemeOut
  let solOutEst := if dlmmEst.out = 0 then leg.minMemeOut / 2 else dlmmEst.out
  t.finish assemble leg solOutEst

/-- `build_onchain_cpmm_to_dlmm_tx`. -/
def buildOnchainCpmmToDlmmTx (cpmm : Option PoolStateData) (assemble : Assemble) :
    BuildResult BuiltTx := do
  let cpmm ← orFail cpmm .notCached
  let dlmm ← orFail t.dlmm .notCached
  let leg ← cpmmBuyLeg t.config t.investmentLamports cpmm
  let freshBins ← orFail t.freshBins .fetchFailed
  let dlmmEst := t.estimate dlmm freshBins leg.minMemeOut
  let solOut := if dlmmEst.out = 0 then leg.minMemeOut / 2 else dlmmEst.out
  t.finish assemble leg solOut

end DlmmSale

/-! ## One view of the three -/

/-- Where the tokens are bought, and what is known of the pool there. -/
inductive BuyVenue where
  | pump (pool : Option Pubkey) (fetchReserves : Pubkey → Option (UInt64 × UInt64))
  | whirlpool (wpReserves : Option WhirlpoolReserves)
  | cpmm (state : Option PoolStateData)

namespace BuyVenue

variable (t : DlmmSale)

/-- The builder for a venue. -/
def build (assemble : Assemble) : BuyVenue → BuildResult BuiltTx
  | pump pool fetchReserves => t.buildOnchainPumpToDlmmTx pool fetchReserves assemble
  | whirlpool wpReserves => t.buildOnchainWhirlpoolToDlmmTx wpReserves assemble
  | cpmm state => t.buildOnchainCpmmToDlmmTx state assemble

/-- The first leg at a venue. -/
def leg : BuyVenue → BuildResult BuyLeg
  | pump pool fetchReserves => do
      let pool ← orFail pool .poolNotFound
      let (freshSolRes, freshTokRes) ← orFail (fetchReserves pool) .fetchFailed
      pumpBuyLeg t.config t.investmentLamports freshSolRes freshTokRes
  | whirlpool wpReserves => do
      let wpReserves ← orFail wpReserves .notCached
      whirlpoolBuyLeg t.config t.investmentLamports wpReserves
  | cpmm state => do
      let state ← orFail state .notCached
      cpmmBuyLeg t.config t.investmentLamports state

/-- The estimate that a builder goes on with. -/
def priced (minMemeOut out : UInt64) : BuyVenue → BuildResult UInt64
  | pump .. => if out = 0 then .error .noEstimate else .ok out
  | whirlpool _ => .ok (if out = 0 then minMemeOut / 2 else out)
  | cpmm _ => .ok (if out = 0 then minMemeOut / 2 else out)

/-- The builder gives up where the bins yield nothing. -/
def GivesUp : BuyVenue → Prop
  | pump .. => True
  | whirlpool _ => False
  | cpmm _ => False

end BuyVenue

section

variable {t : DlmmSale} {venue : BuyVenue} {dlmm : CachedDlmm} {freshBins : List DlmmBin}
  {leg : BuyLeg}

/-- Once the pools are known and the first leg is priced, every builder prices the second
one and finishes. -/
theorem build_eq (cached : t.dlmm = some dlmm) (fetched : t.freshBins = some freshBins)
    (bought : venue.leg t = .ok leg) (assemble : Assemble) :
    venue.build t assemble =
      venue.priced leg.minMemeOut (t.estimate dlmm freshBins leg.minMemeOut).out >>=
        t.finish assemble leg := by
  cases venue with
  | pump pool fetchReserves =>
      simp only [BuyVenue.leg, bind_eq_ok, orFail_eq_ok] at bought
      rcases bought with ⟨pool, rfl, ⟨freshSolRes, freshTokRes⟩, reserves, priced⟩
      simp only [BuyVenue.build, DlmmSale.buildOnchainPumpToDlmmTx, cached, fetched, reserves,
        priced, orFail, ok_bind, BuyVenue.priced]
      split
      · rfl
      · rfl
  | whirlpool wpReserves =>
      simp only [BuyVenue.leg, bind_eq_ok, orFail_eq_ok] at bought
      rcases bought with ⟨wpReserves, rfl, priced⟩
      simp only [BuyVenue.build, DlmmSale.buildOnchainWhirlpoolToDlmmTx, cached, fetched, priced,
        orFail, ok_bind, BuyVenue.priced]
  | cpmm state =>
      simp only [BuyVenue.leg, bind_eq_ok, orFail_eq_ok] at bought
      rcases bought with ⟨state, rfl, priced⟩
      simp only [BuyVenue.build, DlmmSale.buildOnchainCpmmToDlmmTx, cached, fetched, priced,
        orFail, ok_bind, BuyVenue.priced]

/-! ## The test of the profit -/

variable {assemble : Assemble} {solOutEst : UInt64}

theorem finish_of_low (low : freshNet t.opp t.config solOutEst < t.config.minProfitThresholdSol) :
    t.finish assemble leg solOutEst =
      .error (.rejected (freshNet t.opp t.config solOutEst)) := by
  rw [DlmmSale.finish, testProfit, require_of_not (not_not.mpr low)]
  rfl

theorem finish_of_profit
    (profit : ¬freshNet t.opp t.config solOutEst < t.config.minProfitThresholdSol) :
    t.finish assemble leg solOutEst =
      (orFail (assemble leg) .notAssembled >>= fun txBytes =>
        pure { txBytes, memeOutEst := leg.memeOutEst, solOutEst }) := by
  have passed : testProfit t.opp t.config solOutEst = .ok () := require_eq_ok.mpr profit
  rw [DlmmSale.finish, passed]
  rfl

/-- A transaction is built only at a profit, and returned with the estimate. -/
theorem finish_eq_ok {built : BuiltTx} (done : t.finish assemble leg solOutEst = .ok built) :
    ¬freshNet t.opp t.config solOutEst < t.config.minProfitThresholdSol ∧
      built.solOutEst = solOutEst := by
  by_cases low : freshNet t.opp t.config solOutEst < t.config.minProfitThresholdSol
  · rw [finish_of_low low] at done
    cases done
  · rw [finish_of_profit low] at done
    rcases bind_eq_ok.mp done with ⟨txBytes, _, returned⟩
    cases returned
    exact ⟨low, rfl⟩

/-- A rejection names the profit that the estimate promises. -/
theorem finish_eq_rejected {net : ℚ}
    (done : t.finish assemble leg solOutEst = .error (.rejected net)) :
    net = freshNet t.opp t.config solOutEst := by
  by_cases low : freshNet t.opp t.config solOutEst < t.config.minProfitThresholdSol
  · rw [finish_of_low low] at done
    cases done
    rfl
  · rw [finish_of_profit low] at done
    cases assembled : assemble leg with
    | none =>
        rw [assembled] at done
        cases done
    | some txBytes =>
        rw [assembled] at done
        cases done

end

/-! ## Honest prices -/

/-- A builder tests the profit with at most the estimate of the sale, returns at most that,
and builds nothing where it is nothing. -/
structure PricedBy (t : DlmmSale) (venue : BuyVenue) (out : UInt64) : Prop where
  returned : ∀ assemble built, venue.build t assemble = .ok built → built.solOutEst ≤ out
  tested : ∀ assemble net, venue.build t assemble = .error (.rejected net) →
    net ≤ freshNet t.opp t.config out
  nothing : out = 0 → ∀ assemble built, venue.build t assemble ≠ .ok built

/-- No price is invented, whatever the bins are and whatever the first leg comes to. -/
def HonestPrice (t : DlmmSale) (venue : BuyVenue) : Prop :=
  ∀ dlmm freshBins leg, t.dlmm = some dlmm → t.freshBins = some freshBins →
    venue.leg t = .ok leg → PricedBy t venue (t.estimate dlmm freshBins leg.minMemeOut).out

/-- The builder gives up where the bins yield nothing, or they yield something, or half of
the tokens is nothing either and nothing in return is rejected. -/
def BinsYield (t : DlmmSale) (venue : BuyVenue) : Prop :=
  ∀ dlmm freshBins leg, t.dlmm = some dlmm → t.freshBins = some freshBins →
    venue.leg t = .ok leg →
      venue.GivesUp ∨ (t.estimate dlmm freshBins leg.minMemeOut).out ≠ 0 ∨
        leg.minMemeOut < 2 ∧ freshNet t.opp t.config 0 < t.config.minProfitThresholdSol

section

variable {t : DlmmSale} {venue : BuyVenue} {leg : BuyLeg} {out : UInt64}

theorem pricedBy_of_estimate (built : ∀ assemble, venue.build t assemble =
    t.finish assemble leg out) (some : out ≠ 0) : PricedBy t venue out where
  returned assemble tx done := by
    rw [built] at done
    rw [(finish_eq_ok done).2]
    exact UInt64.le_refl out
  tested assemble net done := by
    rw [built] at done
    rw [finish_eq_rejected done]
  nothing zero := absurd zero some

theorem pricedBy_of_givesUp
    (built : ∀ assemble, venue.build t assemble = .error .noEstimate) :
    PricedBy t venue out where
  returned assemble tx done := by
    rw [built] at done
    cases done
  tested assemble net done := by
    rw [built] at done
    cases done
  nothing _ assemble tx done := by
    rw [built] at done
    cases done

theorem half_eq_zero_iff {amount : UInt64} : amount / 2 = 0 ↔ amount < 2 := by
  rw [← UInt64.toNat_inj, UInt64.lt_iff_toNat_lt, UInt64.toNat_div]
  exact Nat.div_eq_zero_iff_lt (by decide)

/-- Half of the tokens is an honest price for nothing only if it is nothing, and rejected. -/
theorem pricedBy_half_iff (built : ∀ assemble, venue.build t assemble =
    t.finish assemble leg (leg.minMemeOut / 2)) :
    PricedBy t venue 0 ↔
      leg.minMemeOut < 2 ∧ freshNet t.opp t.config 0 < t.config.minProfitThresholdSol := by
  rw [← half_eq_zero_iff]
  constructor
  · intro priced
    have low : freshNet t.opp t.config (leg.minMemeOut / 2) < t.config.minProfitThresholdSol := by
      by_contra profit
      have done : venue.build t (fun _ => some []) =
          .ok ⟨[], leg.memeOutEst, leg.minMemeOut / 2⟩ := by
        rw [built, finish_of_profit profit]
        rfl
      exact priced.nothing rfl _ _ done
    have rejected := priced.tested (fun _ => none) _ ((built _).trans (finish_of_low low))
    have half : leg.minMemeOut / 2 = 0 := UInt64.le_zero_iff.mp (freshNet_le_iff.mp rejected)
    rw [half] at low
    exact ⟨half, low⟩
  · intro worthless
    rcases worthless with ⟨half, low⟩
    rw [half] at built
    constructor
    · intro assemble tx done
      rw [built, finish_of_low low] at done
      cases done
    · intro assemble net done
      rw [built] at done
      rw [finish_eq_rejected done]
    · intro _ assemble tx done
      rw [built, finish_of_low low] at done
      cases done

theorem pricedBy_iff {dlmm : CachedDlmm} {freshBins : List DlmmBin} (cached : t.dlmm = some dlmm)
    (fetched : t.freshBins = some freshBins) (bought : venue.leg t = .ok leg) :
    PricedBy t venue (t.estimate dlmm freshBins leg.minMemeOut).out ↔
      venue.GivesUp ∨ (t.estimate dlmm freshBins leg.minMemeOut).out ≠ 0 ∨
        leg.minMemeOut < 2 ∧ freshNet t.opp t.config 0 < t.config.minProfitThresholdSol := by
  have built := build_eq cached fetched bought
  by_cases zero : (t.estimate dlmm freshBins leg.minMemeOut).out = 0
  · rw [zero] at built ⊢
    cases venue with
    | pump pool fetchReserves => exact iff_of_true (pricedBy_of_givesUp built) (.inl trivial)
    | whirlpool wpReserves =>
        rw [pricedBy_half_iff built]
        simp [BuyVenue.GivesUp]
    | cpmm state =>
        rw [pricedBy_half_iff built]
        simp [BuyVenue.GivesUp]
  · have priced : venue.priced leg.minMemeOut (t.estimate dlmm freshBins leg.minMemeOut).out =
        .ok (t.estimate dlmm freshBins leg.minMemeOut).out := by
      cases venue with
      | pump pool fetchReserves => exact if_neg zero
      | whirlpool wpReserves => exact congrArg Except.ok (if_neg zero)
      | cpmm state => exact congrArg Except.ok (if_neg zero)
    rw [priced] at built
    exact iff_of_true (pricedBy_of_estimate built zero) (.inr (.inl zero))

end

/-- A builder invents no price exactly where the bins yield something, unless it gives up
where they do not. -/
theorem honestPrice_iff (t : DlmmSale) (venue : BuyVenue) :
    HonestPrice t venue ↔ BinsYield t venue := by
  apply forall_congr'
  intro dlmm
  apply forall_congr'
  intro freshBins
  apply forall_congr'
  intro leg
  constructor
  · intro honest cached fetched bought
    exact (pricedBy_iff cached fetched bought).mp (honest cached fetched bought)
  · intro yields cached fetched bought
    exact (pricedBy_iff cached fetched bought).mpr (yields cached fetched bought)

/-- A configuration that validates rejects nothing in return for an investment. -/
theorem binsYield_iff_of_positive {t : DlmmSale} {venue : BuyVenue}
    (threshold : 0 < t.config.minProfitThresholdSol) (investment : 0 ≤ t.opp.investmentSol) :
    BinsYield t venue ↔
      ∀ dlmm freshBins leg, t.dlmm = some dlmm → t.freshBins = some freshBins →
        venue.leg t = .ok leg → venue.GivesUp ∨
          (t.estimate dlmm freshBins leg.minMemeOut).out ≠ 0 ∨ leg.minMemeOut < 2 := by
  have rejected := freshNet_zero_lt threshold investment
  simp only [BinsYield, and_iff_left rejected]

/-- A purchase on a CPMM pool, with no bins left to sell to. -/
def sampleSale : DlmmSale where
  opp := { investmentSol := 1 / 10, netProfitSol := 1 / 100, dlmmFeeBps := 30 }
  config :=
    { slippageToleranceBps := 100, minProfitThresholdSol := 1 / 1000, pumpswapFeeBps := 25
      pumpfunFeeBps := 100, computeUnitPriceMicroLamports := 10000, computeUnitLimit := 600000 }
  investmentLamports := 100000000
  dlmm := some
    { lbPair := "", tokenXMint := Client.nativeSolMint, tokenYMint := "", reserveXAddress := ""
      reserveYAddress := "", binArrayAddresses := [], binArrayBitmapExtension := none
      reserveX := 0, reserveY := 0 }
  freshBins := some []

/-- A pool of a hundred SOL and a billion tokens of six decimals. -/
def sampleCpmmState : PoolStateData where
  poolPubkey := ""
  configPubkey := Client.cpmmAmmConfig
  token0Mint := Client.nativeSolMint
  token1Mint := ""
  token0Vault := ""
  token1Vault := ""
  token0VaultRaw := 100000000000
  token1VaultRaw := 1000000000000000

/-- The bins yield nothing for 986540925426 tokens, and half of them is promised. -/
theorem not_honestPrice_sample : ¬∀ (t : DlmmSale) (venue : BuyVenue), HonestPrice t venue := by
  intro all
  have bought : (BuyVenue.cpmm (some sampleCpmmState)).leg sampleSale =
      .ok ⟨100000000, 996505985279, 986540925426⟩ := by decide +kernel
  have nothing (dlmm : CachedDlmm) (amount : UInt64) :
      (sampleSale.estimate dlmm [] amount).out = 0 := by
    simp only [DlmmSale.estimate, estimateDlmmSwapOutputFull]
    rw [if_pos (.inl trivial)]
  have either := (pricedBy_iff rfl rfl bought).mp (all _ _ _ _ _ rfl rfl bought)
  rw [nothing] at either
  cases either with
  | inl givesUp => exact givesUp
  | inr yields =>
      cases yields with
      | inl some => exact some rfl
      | inr worthless => exact absurd worthless.1 (by decide)

end AtomicArbitrage.Bot

import AtomicArbitrage.Library.Saturating
import Mathlib.Algebra.Order.Field.Rat
import Mathlib.Data.Rat.Floor
import Mathlib.Tactic.FieldSimp
import Mathlib.Tactic.Linarith

/-!
# Profit estimates

The scanner simulates a purchase in one pool and a sale in another and takes what comes
back for the profit.  Before it accepts an opportunity with a DLMM pool it fetches the
bins of that pool again and repeats the simulation in a function of its own.  Amounts in
floating point are read as exact rationals; the products of unsigned words wrap as they do
without overflow checks.

The exact reading shows in the fee of an estimate over bins.  It arrives as basis points over
ten thousand, and the code truncates the floating product of that and ten thousand: for 573 of
the whole fees up to ten thousand (`3`, `6`, `12`, `24`, `29`, ...) the code takes one basis
point less than is taken here.
-/

namespace AtomicArbitrage.Bot

/-! ## Pools -/

/-- What the estimate reads of a `DlmmBin`. -/
structure DlmmBin where
  binId : Int32
  amountX : UInt64
  amountY : UInt64
deriving DecidableEq

/-- What the estimates read of a `PoolPriceSnapshot`. -/
structure PoolPriceSnapshot where
  tokenReservesRaw : UInt64
  solReservesRaw : UInt64
  bins : List DlmmBin
  memeIsX : Bool
  feeBps : UInt32
  lbPair : String
  quoteDecimals : UInt8
deriving DecidableEq

/-- What the estimates read of an `ArbitrageScanner`. -/
structure ArbitrageScanner where
  cuCostSol : ℚ
  maxPoolShare : ℚ
  maxAbsoluteSolOut : ℚ

/-- `as u64`. -/
def asU64 (value : ℚ) : ℕ := Saturating.cast 64 value

theorem asU64_lt (value : ℚ) : asU64 value < 2 ^ 64 := Saturating.cast_lt value

/-- `as u128`. -/
def asU128 (value : ℚ) : ℕ := Saturating.cast 128 value

/-- An amount less a fee: `amount * (10000 - fee_bps) / 10000` on `u128`. -/
def afterFee (amount feeBps : ℕ) : ℕ :=
  amount * ((2 ^ 128 + 10000 - feeBps) % 2 ^ 128) % 2 ^ 128 / 10000

/-- The output of a constant product; with nothing in the input reserve and nothing put in
the division panics. -/
def constantProduct (eff reserveOut reserveIn : ℕ) : Option ℕ :=
  if reserveIn + eff = 0 then none else some (eff * reserveOut % 2 ^ 128 / (reserveIn + eff))

/-! ## Bins -/

/-- The loop over the active bins: a bin is exhausted, or filled in proportion as the last
one. -/
def fillBins (isXToY : Bool) : List DlmmBin → (remainingIn totalOut : ℕ) → ℕ
  | [], _, totalOut => totalOut
  | bin :: bins, remainingIn, totalOut =>
      let (reserveIn, reserveOut) :=
        if isXToY then (bin.amountX.toNat, bin.amountY.toNat)
        else (bin.amountY.toNat, bin.amountX.toNat)
      if reserveIn = 0 ∨ reserveOut = 0 then fillBins isXToY bins remainingIn totalOut
      else if remainingIn ≤ reserveIn then
        totalOut + reserveOut * remainingIn / reserveIn
      else fillBins isXToY bins (remainingIn - reserveIn) (totalOut + reserveOut)

/-- The bins with an amount, in the order in which a swap consumes them. -/
def activeBins (bins : List DlmmBin) (isXToY : Bool) : List DlmmBin :=
  let active := bins.filter fun bin => bin.amountX > 0 ∨ bin.amountY > 0
  if isXToY then active.mergeSort fun left right => right.binId ≤ left.binId
  else active.mergeSort fun left right => left.binId ≤ right.binId

/-- `estimate_dlmm_swap_output`, with an exact product of the fee and ten thousand. -/
def estimateDlmmSwapOutput (bins : List DlmmBin) (amountIn : ℕ) (isXToY : Bool) (fee : ℚ) :
    ℕ :=
  let feeBps := asU128 (fee * 10000)
  let amountAfterFee := afterFee amountIn feeBps % 2 ^ 64
  if bins = [] ∨ amountAfterFee = 0 then 0
  else fillBins isXToY (activeBins bins isXToY) amountAfterFee 0 % 2 ^ 64

namespace PoolPriceSnapshot

/-- `10_f64.powi(quote_decimals)`. -/
def quoteUnit (snapshot : PoolPriceSnapshot) : ℚ := 10 ^ snapshot.quoteDecimals.toNat

def feeRate (snapshot : PoolPriceSnapshot) : ℚ := snapshot.feeBps.toNat / 10000

/-- The tokens that a quote amount buys from bins of a pool. -/
def buyFromBins (snapshot : PoolPriceSnapshot) (bins : List DlmmBin) (quoteIn : ℕ) : ℕ :=
  estimateDlmmSwapOutput bins quoteIn (!snapshot.memeIsX) snapshot.feeRate

/-- What tokens bring from bins of a pool. -/
def sellIntoBins (snapshot : PoolPriceSnapshot) (bins : List DlmmBin) (tokens : ℕ) : ℕ :=
  estimateDlmmSwapOutput bins (tokens % 2 ^ 64) snapshot.memeIsX snapshot.feeRate

/-- The tokens that a quote amount buys from the reserves of a pool. -/
def buyFromReserves (snapshot : PoolPriceSnapshot) (quoteIn : ℕ) : Option ℕ :=
  constantProduct (afterFee quoteIn snapshot.feeBps.toNat) snapshot.tokenReservesRaw.toNat
    snapshot.solReservesRaw.toNat

/-- What tokens bring from the reserves of a pool. -/
def sellIntoReserves (snapshot : PoolPriceSnapshot) (tokens : ℕ) : Option ℕ :=
  constantProduct (afterFee tokens snapshot.feeBps.toNat) snapshot.solReservesRaw.toNat
    snapshot.tokenReservesRaw.toNat

/-- `tokens_got`: from the cached bins where there are some, else from the reserves. -/
def tokensGot (buy : PoolPriceSnapshot) (quoteIn : ℕ) : Option ℕ :=
  if buy.bins ≠ [] then some (buy.buyFromBins buy.bins quoteIn)
  else buy.buyFromReserves quoteIn

/-- `quote_back_raw`, likewise. -/
def quoteBackRaw (sell : PoolPriceSnapshot) (tokensGot : ℕ) : Option ℕ :=
  if sell.bins ≠ [] then some (sell.sellIntoBins sell.bins tokensGot)
  else sell.sellIntoReserves tokensGot

end PoolPriceSnapshot

namespace ArbitrageScanner

variable (s : ArbitrageScanner)

/-! ## Estimates

A result `none` is a panic, or an error of `refetch_and_verify`. -/

/-- The raw sell output of `compute_arb_at_investment`, for a raw quote amount, capped at a
share of the sell pool's quote reserves. -/
def quoteBack (buy sell : PoolPriceSnapshot) (quoteIn : ℕ) : Option ℕ := do
  let tokensGot ← buy.tokensGot quoteIn
  let quoteBackRaw ← sell.quoteBackRaw tokensGot
  pure (min quoteBackRaw (asU128 (sell.solReservesRaw.toNat * s.maxPoolShare)))

/-- `compute_arb_at_investment`: the gross and the net profit. -/
def computeArbAtInvestment (buy sell : PoolPriceSnapshot) (investment : ℚ) :
    Option (ℚ × ℚ) := do
  let quoteUnit := buy.quoteUnit
  let quoteIn := asU64 (investment * quoteUnit)
  let quoteBack ← s.quoteBack buy sell quoteIn
  let gross := quoteBack / quoteUnit - investment
  let net := gross - s.cuCostSol
  pure (gross, net)

/-- `refetch_and_verify`: the net profit over freshly fetched bins. -/
def refetchAndVerify (fetchBinsFresh : String → Option (List DlmmBin))
    (dlmmSnap otherSnap : PoolPriceSnapshot) (investment : ℚ) (dlmmIsSell : Bool) :
    Option ℚ := do
  let freshBins ← fetchBinsFresh dlmmSnap.lbPair
  if freshBins = [] then none
  let otherQuoteUnit := otherSnap.quoteUnit
  if dlmmIsSell then
    let quoteIn := asU64 (investment * otherQuoteUnit)
    let tokensGot ← otherSnap.buyFromReserves quoteIn
    let solBackRaw := dlmmSnap.sellIntoBins freshBins tokensGot
    let maxSolOut := asU128
      (min (dlmmSnap.solReservesRaw.toNat * s.maxPoolShare) (s.maxAbsoluteSolOut * 10 ^ 9))
    let solBack := min solBackRaw maxSolOut
    let gross := (solBack : ℚ) / 10 ^ 9 - investment
    pure (gross - s.cuCostSol)
  else
    let solIn := asU64 (investment * 10 ^ 9)
    let tokensGot := dlmmSnap.buyFromBins freshBins solIn
    let quoteBackRaw ← otherSnap.sellIntoReserves tokensGot
    let maxOut := asU128 (min (otherSnap.solReservesRaw.toNat * s.maxPoolShare)
      (s.maxAbsoluteSolOut * otherQuoteUnit))
    let quoteBack := min quoteBackRaw maxOut
    let gross := (quoteBack : ℚ) / otherQuoteUnit - investment
    pure (gross - s.cuCostSol)

section

variable {s} {buy sell : PoolPriceSnapshot}

theorem computeArbAtInvestment_eq (investment : ℚ) :
    s.computeArbAtInvestment buy sell investment =
      (s.quoteBack buy sell (asU64 (investment * buy.quoteUnit))).map fun quoteBack : ℕ =>
        ((quoteBack : ℚ) / buy.quoteUnit - investment,
          (quoteBack : ℚ) / buy.quoteUnit - investment - s.cuCostSol) := by
  simp only [computeArbAtInvestment]
  cases s.quoteBack buy sell (asU64 (investment * buy.quoteUnit)) with
  | none => rfl
  | some quoteBack => rfl

/-- The cap of the verification cuts the output that is already capped once more. -/
theorem min_asU128_min (raw : ℕ) (share absolute : ℚ) :
    min raw (asU128 (min share absolute)) = min (min raw (asU128 share)) (asU128 absolute) := by
  rw [asU128, Saturating.cast_min, ← min_assoc]
  rfl

/-- Over the bins that are cached, the verification of a sale into a DLMM pool reads the
same output in units of SOL. -/
theorem refetchAndVerify_sell {fetchBinsFresh : String → Option (List DlmmBin)}
    (binned : sell.bins ≠ []) (unbinned : buy.bins = [])
    (fresh : fetchBinsFresh sell.lbPair = some sell.bins) (investment : ℚ) :
    s.refetchAndVerify fetchBinsFresh sell buy investment true =
      (s.quoteBack buy sell (asU64 (investment * buy.quoteUnit))).map fun quoteBack : ℕ =>
        ((min quoteBack (asU128 (s.maxAbsoluteSolOut * 10 ^ 9)) : ℕ) : ℚ) / 10 ^ 9 -
          investment - s.cuCostSol := by
  simp only [refetchAndVerify, fresh, quoteBack, PoolPriceSnapshot.tokensGot,
    PoolPriceSnapshot.quoteBackRaw, Option.bind_eq_bind, Option.bind_some, unbinned, ne_eq,
    not_true_eq_false, if_false, if_true, binned, not_false_eq_true, min_asU128_min]
  cases buy.buyFromReserves (asU64 (investment * buy.quoteUnit)) with
  | none => rfl
  | some tokens => rfl

/-- Over the bins that are cached, the verification of a purchase from a DLMM pool spends
the investment in units of SOL. -/
theorem refetchAndVerify_buy {fetchBinsFresh : String → Option (List DlmmBin)}
    (binned : buy.bins ≠ []) (unbinned : sell.bins = [])
    (fresh : fetchBinsFresh buy.lbPair = some buy.bins) (investment : ℚ) :
    s.refetchAndVerify fetchBinsFresh buy sell investment false =
      (s.quoteBack buy sell (asU64 (investment * 10 ^ 9))).map fun quoteBack : ℕ =>
        ((min quoteBack (asU128 (s.maxAbsoluteSolOut * sell.quoteUnit)) : ℕ) : ℚ) /
          sell.quoteUnit - investment - s.cuCostSol := by
  simp only [refetchAndVerify, fresh, quoteBack, PoolPriceSnapshot.tokensGot,
    PoolPriceSnapshot.quoteBackRaw, Option.bind_eq_bind, Option.bind_some, unbinned, ne_eq,
    not_true_eq_false, if_false, if_true, binned, not_false_eq_true, min_asU128_min,
    Bool.false_eq_true]
  cases sell.sellIntoReserves (buy.buyFromBins buy.bins (asU64 (investment * 10 ^ 9))) with
  | none => rfl
  | some raw => rfl

end

end ArbitrageScanner

/-! ## One currency -/

namespace PoolPriceSnapshot

/-- What `estimate_profit` checks of both pools before any simulation. -/
structure Traded (snapshot : PoolPriceSnapshot) : Prop where
  sol : snapshot.solReservesRaw ≠ 0
  token : snapshot.tokenReservesRaw ≠ 0

theorem Traded.sol_toNat {snapshot : PoolPriceSnapshot} (traded : snapshot.Traded) :
    snapshot.solReservesRaw.toNat ≠ 0 :=
  fun empty => traded.sol (UInt64.toNat_inj.mp empty)

theorem Traded.token_toNat {snapshot : PoolPriceSnapshot} (traded : snapshot.Traded) :
    snapshot.tokenReservesRaw.toNat ≠ 0 :=
  fun empty => traded.token (UInt64.toNat_inj.mp empty)

/-- The decimals of the quotes that the venues have: SOL or a dollar. -/
def Quoted (snapshot : PoolPriceSnapshot) : Prop :=
  snapshot.quoteDecimals = 9 ∨ snapshot.quoteDecimals = 6

theorem quoteUnit_pos (snapshot : PoolPriceSnapshot) : 0 < snapshot.quoteUnit :=
  pow_pos (by norm_num) _

theorem quoteUnit_inj {left right : PoolPriceSnapshot} :
    left.quoteUnit = right.quoteUnit ↔ left.quoteDecimals = right.quoteDecimals := by
  have injective : Function.Injective fun exponent : ℕ => (10 : ℚ) ^ exponent :=
    pow_right_injective₀ (by norm_num) (by norm_num)
  exact injective.eq_iff.trans UInt8.toNat_inj

theorem quoteUnit_eq_sol {snapshot : PoolPriceSnapshot} :
    10 ^ 9 = snapshot.quoteUnit ↔ snapshot.quoteDecimals = 9 := by
  have injective : Function.Injective fun exponent : ℕ => (10 : ℚ) ^ exponent :=
    pow_right_injective₀ (by norm_num) (by norm_num)
  rw [quoteUnit, injective.eq_iff, eq_comm, ← UInt8.toNat_inj]
  rfl

theorem Quoted.quoteUnit_le {snapshot : PoolPriceSnapshot} (quoted : snapshot.Quoted) :
    snapshot.quoteUnit ≤ 10 ^ 9 := by
  have exponent : snapshot.quoteDecimals.toNat ≤ 9 := by
    rcases quoted with sol | dollar
    · rw [sol]
      decide
    · rw [dollar]
      decide
  exact pow_le_pow_right₀ (by norm_num) exponent

end PoolPriceSnapshot

namespace ArbitrageScanner

variable (s : ArbitrageScanner)

/-- The gross profit is the sell output in the units of the sell pool, less the
investment. -/
def GrossInSellUnit (buy sell : PoolPriceSnapshot) : Prop :=
  ∀ investment quoteBack, s.quoteBack buy sell (asU64 (investment * buy.quoteUnit)) =
      some quoteBack →
    (s.computeArbAtInvestment buy sell investment).map Prod.fst =
      some (quoteBack / sell.quoteUnit - investment)

/-- The verification of a sale into a DLMM pool, over the bins that are cached, gives the net
profit of the estimate while the output stays below the absolute maximum. -/
def VerifiedOnSell (buy sell : PoolPriceSnapshot) : Prop :=
  sell.bins ≠ [] → buy.bins = [] → ∀ fetchBinsFresh : String → Option (List DlmmBin),
    fetchBinsFresh sell.lbPair = some sell.bins → ∀ investment quoteBack,
      s.quoteBack buy sell (asU64 (investment * buy.quoteUnit)) = some quoteBack →
        quoteBack / sell.quoteUnit < s.maxAbsoluteSolOut →
          s.refetchAndVerify fetchBinsFresh sell buy investment true =
            (s.computeArbAtInvestment buy sell investment).map Prod.snd

/-- The same for a purchase from a DLMM pool. -/
def VerifiedOnBuy (buy sell : PoolPriceSnapshot) : Prop :=
  buy.bins ≠ [] → sell.bins = [] → ∀ fetchBinsFresh : String → Option (List DlmmBin),
    fetchBinsFresh buy.lbPair = some buy.bins → ∀ investment quoteBack,
      s.quoteBack buy sell (asU64 (investment * buy.quoteUnit)) = some quoteBack →
        quoteBack / sell.quoteUnit < s.maxAbsoluteSolOut →
          s.refetchAndVerify fetchBinsFresh buy sell investment false =
            (s.computeArbAtInvestment buy sell investment).map Prod.snd

/-- The profit figures of a pair of pools are in one currency. -/
def OneCurrency (buy sell : PoolPriceSnapshot) : Prop :=
  s.GrossInSellUnit buy sell ∧ s.VerifiedOnSell buy sell ∧ s.VerifiedOnBuy buy sell

/-- No investment brings anything back. -/
def NothingBack (buy sell : PoolPriceSnapshot) : Prop :=
  ∀ quoteIn < 2 ^ 64, s.quoteBack buy sell quoteIn = some 0

/-- Every output that is below the absolute maximum is nothing. -/
def NothingBelowMaximum (buy sell : PoolPriceSnapshot) : Prop :=
  ∀ quoteIn < 2 ^ 64, ∀ quoteBack, s.quoteBack buy sell quoteIn = some quoteBack →
    quoteBack / sell.quoteUnit < s.maxAbsoluteSolOut → quoteBack = 0

section

variable {s} {buy sell : PoolPriceSnapshot}

theorem quoteBack_lt {quoteIn quoteBack : ℕ}
    (back : s.quoteBack buy sell quoteIn = some quoteBack) : quoteBack < 2 ^ 128 := by
  simp only [ArbitrageScanner.quoteBack, Option.bind_eq_bind, Option.bind_eq_some_iff,
    Option.pure_def, Option.some_inj] at back
  rcases back with ⟨_, _, _, _, rfl⟩
  exact (min_le_right _ _).trans_lt (Saturating.cast_lt _)

theorem exists_constantProduct {eff reserveOut reserveIn : ℕ} (held : reserveIn ≠ 0) :
    ∃ output, constantProduct eff reserveOut reserveIn = some output :=
  ⟨_, if_neg fun empty => held (Nat.eq_zero_of_add_eq_zero_right empty)⟩

/-- Between pools with reserves nothing panics. -/
theorem exists_quoteBack (buyTraded : buy.Traded) (sellTraded : sell.Traded) (quoteIn : ℕ) :
    ∃ quoteBack, s.quoteBack buy sell quoteIn = some quoteBack := by
  have bought : ∃ tokens, buy.tokensGot quoteIn = some tokens := by
    rw [PoolPriceSnapshot.tokensGot]
    split
    · exact ⟨_, rfl⟩
    · exact exists_constantProduct buyTraded.sol_toNat
  rcases bought with ⟨tokens, bought⟩
  have sold : ∃ raw, sell.quoteBackRaw tokens = some raw := by
    rw [PoolPriceSnapshot.quoteBackRaw]
    split
    · exact ⟨_, rfl⟩
    · exact exists_constantProduct sellTraded.token_toNat
  rcases sold with ⟨raw, sold⟩
  simp only [quoteBack, bought, Option.bind_eq_bind, Option.bind_some, sold]
  exact ⟨_, rfl⟩

theorem afterFee_zero (feeBps : ℕ) : afterFee 0 feeBps = 0 := by
  simp [afterFee]

theorem estimateDlmmSwapOutput_zero (bins : List DlmmBin) (isXToY : Bool) (fee : ℚ) :
    estimateDlmmSwapOutput bins 0 isXToY fee = 0 := by
  simp [estimateDlmmSwapOutput, afterFee_zero]

/-- Nothing put in brings nothing back. -/
theorem quoteBack_zero (buyTraded : buy.Traded) (sellTraded : sell.Traded) :
    s.quoteBack buy sell 0 = some 0 := by
  have bought : buy.tokensGot 0 = some 0 := by
    rw [PoolPriceSnapshot.tokensGot]
    split
    · rw [PoolPriceSnapshot.buyFromBins, estimateDlmmSwapOutput_zero]
    · simp [PoolPriceSnapshot.buyFromReserves, afterFee_zero, constantProduct,
        buyTraded.sol_toNat]
  have sold : sell.quoteBackRaw 0 = some 0 := by
    rw [PoolPriceSnapshot.quoteBackRaw]
    split
    · rw [PoolPriceSnapshot.sellIntoBins, Nat.zero_mod, estimateDlmmSwapOutput_zero]
    · simp [PoolPriceSnapshot.sellIntoReserves, afterFee_zero, constantProduct,
        sellTraded.token_toNat]
  simp only [quoteBack, bought, Option.bind_eq_bind, Option.bind_some, sold, Nat.zero_min]
  rfl

/-- Every raw amount is that of some investment. -/
theorem asU64_div_mul {quoteIn : ℕ} (small : quoteIn < 2 ^ 64) {unit : ℚ} (pos : 0 < unit) :
    asU64 (quoteIn / unit * unit) = quoteIn := by
  rw [div_mul_cancel₀ _ pos.ne', asU64, Saturating.cast_natCast small]

theorem div_eq_div_iff_zero {amount left right : ℚ} :
    amount / left = amount / right ↔ amount = 0 ∨ left = right := by
  by_cases zero : amount = 0
  · simp [zero]
  · rw [div_eq_mul_inv, div_eq_mul_inv, mul_right_inj' zero, inv_inj]
    simp [zero]

theorem grossInSellUnit_iff (buyTraded : buy.Traded) (sellTraded : sell.Traded) :
    s.GrossInSellUnit buy sell ↔
      s.NothingBack buy sell ∨ buy.quoteDecimals = sell.quoteDecimals := by
  have same (investment : ℚ) (quoteBack : ℕ)
      (back : s.quoteBack buy sell (asU64 (investment * buy.quoteUnit)) = some quoteBack) :
      (s.computeArbAtInvestment buy sell investment).map Prod.fst =
          some (quoteBack / sell.quoteUnit - investment) ↔
        quoteBack = 0 ∨ buy.quoteDecimals = sell.quoteDecimals := by
    rw [computeArbAtInvestment_eq, back, Option.map_some, Option.map_some, Option.some_inj,
      sub_left_inj, div_eq_div_iff_zero, Nat.cast_eq_zero, PoolPriceSnapshot.quoteUnit_inj]
  constructor
  · intro gross
    by_cases decimals : buy.quoteDecimals = sell.quoteDecimals
    · exact .inr decimals
    · left
      intro quoteIn small
      rcases exists_quoteBack (s := s) buyTraded sellTraded quoteIn with ⟨quoteBack, back⟩
      have spent := asU64_div_mul small buy.quoteUnit_pos
      have whole := gross (quoteIn / buy.quoteUnit) quoteBack (by rw [spent]; exact back)
      rw [same _ _ (by rw [spent]; exact back)] at whole
      rw [back, whole.resolve_right decimals]
  · intro condition investment quoteBack back
    rw [same _ _ back]
    rcases condition with nothing | decimals
    · left
      have none := nothing _ (asU64_lt (investment * buy.quoteUnit))
      exact Option.some_inj.mp (back.symm.trans none)
    · exact .inr decimals

/-- An output below the absolute maximum is not cut by it. -/
theorem min_asU128_of_lt {quoteIn quoteBack : ℕ}
    (back : s.quoteBack buy sell quoteIn = some quoteBack) {unit larger : ℚ} (pos : 0 < unit)
    (le : unit ≤ larger) (below : quoteBack / unit < s.maxAbsoluteSolOut) :
    min quoteBack (asU128 (s.maxAbsoluteSolOut * larger)) = quoteBack := by
  have raw : (quoteBack : ℚ) < s.maxAbsoluteSolOut * unit := (div_lt_iff₀ pos).mp below
  have maximum : 0 ≤ s.maxAbsoluteSolOut :=
    (div_nonneg (Nat.cast_nonneg quoteBack) pos.le).trans below.le
  apply min_eq_left
  apply Saturating.le_cast (quoteBack_lt back)
  exact raw.le.trans (mul_le_mul_of_nonneg_left le maximum)

/-- A sale into a DLMM pool is verified exactly when its outputs are of SOL, or are nothing
or not below the absolute maximum. -/
theorem verifiedOnSell_iff (sellQuoted : sell.Quoted) :
    s.VerifiedOnSell buy sell ↔
      (sell.bins ≠ [] → buy.bins = [] →
        buy.quoteDecimals = 9 ∨ s.NothingBelowMaximum buy sell) := by
  have same (binned : sell.bins ≠ []) (unbinned : buy.bins = [])
      (fetchBinsFresh : String → Option (List DlmmBin))
      (fresh : fetchBinsFresh sell.lbPair = some sell.bins) (investment : ℚ) (quoteBack : ℕ)
      (back : s.quoteBack buy sell (asU64 (investment * buy.quoteUnit)) = some quoteBack)
      (below : quoteBack / sell.quoteUnit < s.maxAbsoluteSolOut) :
      s.refetchAndVerify fetchBinsFresh sell buy investment true =
          (s.computeArbAtInvestment buy sell investment).map Prod.snd ↔
        quoteBack = 0 ∨ buy.quoteDecimals = 9 := by
    rw [refetchAndVerify_sell binned unbinned fresh, computeArbAtInvestment_eq, back,
      Option.map_some, Option.map_some, Option.map_some, Option.some_inj, sub_left_inj,
      sub_left_inj, min_asU128_of_lt back sell.quoteUnit_pos sellQuoted.quoteUnit_le below,
      div_eq_div_iff_zero, Nat.cast_eq_zero, PoolPriceSnapshot.quoteUnit_eq_sol]
  constructor
  · intro verified binned unbinned
    by_cases sol : buy.quoteDecimals = 9
    · exact .inl sol
    right
    intro quoteIn small quoteBack back below
    have spent := asU64_div_mul small buy.quoteUnit_pos
    rw [← spent] at back
    have equal := verified binned unbinned (fun _ => some sell.bins) rfl _ quoteBack back below
    rw [same binned unbinned _ rfl _ quoteBack back below] at equal
    exact equal.resolve_right sol
  · intro condition binned unbinned fetchBinsFresh fresh investment quoteBack back below
    rw [same binned unbinned fetchBinsFresh fresh investment quoteBack back below]
    rcases condition binned unbinned with sol | nothing
    · exact .inr sol
    · exact .inl (nothing _ (asU64_lt _) quoteBack back below)

/-- What a verification of a purchase compares: the sale of a purchase for the investment in
units of SOL with the sale of the purchase that was estimated. -/
theorem verifiesOnBuy_iff {fetchBinsFresh : String → Option (List DlmmBin)}
    (binned : buy.bins ≠ []) (unbinned : sell.bins = [])
    (fresh : fetchBinsFresh buy.lbPair = some buy.bins) {investment : ℚ}
    {quoteBack refetched : ℕ}
    (back : s.quoteBack buy sell (asU64 (investment * buy.quoteUnit)) = some quoteBack)
    (back' : s.quoteBack buy sell (asU64 (investment * 10 ^ 9)) = some refetched)
    (decimals : buy.quoteDecimals = sell.quoteDecimals) :
    s.refetchAndVerify fetchBinsFresh buy sell investment false =
        (s.computeArbAtInvestment buy sell investment).map Prod.snd ↔
      min refetched (asU128 (s.maxAbsoluteSolOut * sell.quoteUnit)) = quoteBack := by
  have units := PoolPriceSnapshot.quoteUnit_inj.mpr decimals
  rw [refetchAndVerify_buy binned unbinned fresh, computeArbAtInvestment_eq, back, back',
    Option.map_some, Option.map_some, Option.map_some, Option.some_inj, sub_left_inj,
    sub_left_inj, units, div_left_inj' sell.quoteUnit_pos.ne', Nat.cast_inj]

/-- Where both pools are quoted in dollars, the verification of a purchase spends a thousand
times the raw amount.  Going down by thousands, every output is that of nothing. -/
theorem nothingBack_of_verifiedOnBuy (buyTraded : buy.Traded) (sellTraded : sell.Traded)
    (decimals : buy.quoteDecimals = sell.quoteDecimals) (dollar : buy.quoteDecimals = 6)
    (binned : buy.bins ≠ []) (unbinned : sell.bins = [])
    (maximum : 1 ≤ s.maxAbsoluteSolOut * buy.quoteUnit)
    (verified : s.VerifiedOnBuy buy sell) : s.NothingBack buy sell := by
  have units := PoolPriceSnapshot.quoteUnit_inj.mpr decimals
  have unit : buy.quoteUnit = 10 ^ 6 := by
    rw [PoolPriceSnapshot.quoteUnit, dollar]
    rfl
  have positive : 0 < s.maxAbsoluteSolOut :=
    pos_of_mul_pos_left (zero_lt_one.trans_le maximum) buy.quoteUnit_pos.le
  have word : 1 ≤ asU128 (s.maxAbsoluteSolOut * sell.quoteUnit) := by
    apply Saturating.le_cast (by norm_num)
    rw [← units]
    exact_mod_cast maximum
  intro quoteIn
  induction quoteIn using Nat.strong_induction_on with
  | _ quoteIn ih =>
      intro small
      rcases Nat.eq_zero_or_pos quoteIn with rfl | some
      · exact quoteBack_zero buyTraded sellTraded
      rcases exists_quoteBack (s := s) buyTraded sellTraded quoteIn with ⟨refetched, back'⟩
      -- the investment whose verification spends `quoteIn`
      have less : quoteIn / 1000 < quoteIn := Nat.div_lt_self some (by norm_num)
      have spent : asU64 ((quoteIn : ℚ) / 10 ^ 9 * buy.quoteUnit) = quoteIn / 1000 := by
        have thousandth : (quoteIn : ℚ) / 10 ^ 9 * buy.quoteUnit = (quoteIn : ℚ) / 1000 := by
          rw [unit]
          ring
        have whole : (quoteIn : ℚ) / 1000 * ((1000 : ℕ) : ℚ) = quoteIn := by
          push_cast
          ring
        rw [thousandth, asU64, Saturating.cast,
          ← Nat.mul_cast_floor_div_cancel (by norm_num : 1000 ≠ 0), whole, Nat.floor_natCast]
        omega
      have spent' : asU64 ((quoteIn : ℚ) / 10 ^ 9 * 10 ^ 9) = quoteIn :=
        asU64_div_mul small (by norm_num)
      have back : s.quoteBack buy sell (asU64 ((quoteIn : ℚ) / 10 ^ 9 * buy.quoteUnit)) =
          Option.some 0 := by
        rw [spent]
        exact ih _ less (less.trans small)
      have equal := verified binned unbinned (fun _ => Option.some buy.bins) rfl _ 0 back
        (by rw [Nat.cast_zero, zero_div]; exact positive)
      rw [verifiesOnBuy_iff binned unbinned rfl back (by rw [spent']; exact back') decimals]
        at equal
      rw [back', (Nat.min_eq_zero_iff.mp equal).resolve_right (Nat.one_le_iff_ne_zero.mp word)]

theorem verifiedOnBuy_iff (buyTraded : buy.Traded) (sellTraded : sell.Traded)
    (buyQuoted : buy.Quoted) (decimals : buy.quoteDecimals = sell.quoteDecimals)
    (paid : ¬s.NothingBack buy sell) :
    s.VerifiedOnBuy buy sell ↔
      (buy.bins ≠ [] → sell.bins = [] →
        buy.quoteDecimals = 9 ∨ s.maxAbsoluteSolOut * buy.quoteUnit < 1) := by
  constructor
  · intro verified binned unbinned
    rcases buyQuoted with sol | dollar
    · exact .inl sol
    · right
      by_contra maximum
      exact paid (nothingBack_of_verifiedOnBuy buyTraded sellTraded decimals dollar binned
        unbinned (not_lt.mp maximum) verified)
  · intro condition binned unbinned fetchBinsFresh fresh investment quoteBack back below
    rcases exists_quoteBack (s := s) buyTraded sellTraded (asU64 (investment * 10 ^ 9)) with
      ⟨refetched, back'⟩
    rw [verifiesOnBuy_iff binned unbinned fresh back back' decimals]
    rcases condition binned unbinned with sol | maximum
    · rw [PoolPriceSnapshot.quoteUnit_eq_sol.mpr sol, back, Option.some_inj] at back'
      subst back'
      exact min_asU128_of_lt back sell.quoteUnit_pos le_rfl below
    · rw [PoolPriceSnapshot.quoteUnit_inj.mpr decimals] at maximum
      have none : (quoteBack : ℚ) < 1 :=
        ((div_lt_iff₀ sell.quoteUnit_pos).mp below).trans maximum
      have cut : asU128 (s.maxAbsoluteSolOut * sell.quoteUnit) = 0 := by
        rw [asU128, Saturating.cast, Nat.floor_eq_zero.mpr maximum, Nat.zero_min]
      rw [cut, Nat.min_zero]
      exact (Nat.lt_one_iff.mp (by exact_mod_cast none)).symm

/-- Where nothing comes back, nothing is what both verifications find. -/
theorem verifiedOnBuy_of_nothingBack (nothing : s.NothingBack buy sell) :
    s.VerifiedOnBuy buy sell := by
  intro binned unbinned fetchBinsFresh fresh investment quoteBack _ _
  rw [refetchAndVerify_buy binned unbinned fresh, computeArbAtInvestment_eq,
    nothing _ (asU64_lt _), nothing _ (asU64_lt _)]
  simp

end

/-- The profit figures of two pools are in one currency, for every investment, exactly when
nothing ever comes back, or when both are quoted with the same decimals and, if one of
them alone has bins, these are the decimals of SOL.  The remaining cases are those in which
no output, or none but nothing, is below the absolute maximum. -/
theorem oneCurrency_iff (s : ArbitrageScanner) {buy sell : PoolPriceSnapshot}
    (buyTraded : buy.Traded) (sellTraded : sell.Traded) (buyQuoted : buy.Quoted)
    (sellQuoted : sell.Quoted) :
    s.OneCurrency buy sell ↔
      s.NothingBack buy sell ∨
        (buy.quoteDecimals = sell.quoteDecimals ∧
          (sell.bins ≠ [] → buy.bins = [] →
            buy.quoteDecimals = 9 ∨ s.NothingBelowMaximum buy sell) ∧
          (buy.bins ≠ [] → sell.bins = [] →
            buy.quoteDecimals = 9 ∨ s.maxAbsoluteSolOut * buy.quoteUnit < 1)) := by
  rw [OneCurrency]
  rw [grossInSellUnit_iff buyTraded sellTraded, verifiedOnSell_iff sellQuoted]
  by_cases nothing : s.NothingBack buy sell
  · refine iff_of_true ⟨.inl nothing, ?_, verifiedOnBuy_of_nothingBack nothing⟩ (.inl nothing)
    intro _ _
    right
    intro quoteIn small quoteBack back _
    exact Option.some_inj.mp (back.symm.trans (nothing quoteIn small))
  · constructor
    · intro all
      rcases all with ⟨gross, onSell, onBuy⟩
      have decimals := gross.resolve_left nothing
      exact .inr ⟨decimals, onSell,
        (verifiedOnBuy_iff buyTraded sellTraded buyQuoted decimals nothing).mp onBuy⟩
    · intro condition
      rcases condition.resolve_left nothing with ⟨decimals, onSell, onBuy⟩
      exact ⟨.inr decimals, onSell,
        (verifiedOnBuy_iff buyTraded sellTraded buyQuoted decimals nothing).mpr onBuy⟩

/-! ## Samples -/

/-- A scanner that trades at most a fiftieth of a pool. -/
def sampleScanner : ArbitrageScanner where
  cuCostSol := 1 / 100000
  maxPoolShare := 1 / 50
  maxAbsoluteSolOut := 5

/-- A pool with reserves of SOL. -/
def sampleReservesPool : PoolPriceSnapshot where
  tokenReservesRaw := 1000000000000
  solReservesRaw := 100000000000
  bins := []
  memeIsX := false
  feeBps := 25
  lbPair := ""
  quoteDecimals := 9

/-- A DLMM pool with one bin, quoted with these decimals. -/
def sampleBinsPool (quoteDecimals : UInt8) : PoolPriceSnapshot where
  tokenReservesRaw := 1000000000000
  solReservesRaw := 20000000000
  bins := [{ binId := 0, amountX := 1000000000000, amountY := 20000000000 }]
  memeIsX := true
  feeBps := 20
  lbPair := "5rCf1DM8LjKTw4YqhnoLcngyZYeNnQqztScTogYHAS6"
  quoteDecimals

/-- A pool of SOL and a DLMM pool of SOL. -/
theorem oneCurrency_iff_sample :
    sampleScanner.OneCurrency sampleReservesPool (sampleBinsPool 9) := by
  apply (oneCurrency_iff sampleScanner ⟨by decide, by decide⟩ ⟨by decide, by decide⟩ (.inl rfl)
    (.inl rfl)).mpr
  exact .inr ⟨rfl, fun _ _ => .inl rfl, fun binned _ => absurd rfl binned⟩

/-- The dollars that a DLMM pool pays are counted in units of the SOL that was spent. -/
theorem not_oneCurrency_dollar :
    ¬∀ (s : ArbitrageScanner) (buy sell : PoolPriceSnapshot), buy.Traded → sell.Traded →
      buy.Quoted → sell.Quoted → s.OneCurrency buy sell := by
  intro all
  have one := all sampleScanner sampleReservesPool (sampleBinsPool 6) ⟨by decide, by decide⟩
    ⟨by decide, by decide⟩ (.inl rfl) (.inr rfl)
  rcases (grossInSellUnit_iff ⟨by decide, by decide⟩ ⟨by decide, by decide⟩).mp one.1 with
    nothing | decimals
  · exact absurd (nothing 1000000000 (by decide)) (by decide +kernel)
  · exact absurd decimals (by decide)

end ArbitrageScanner

end AtomicArbitrage.Bot

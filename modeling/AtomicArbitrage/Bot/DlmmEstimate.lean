import AtomicArbitrage.Bot.SwapEstimate
import AtomicArbitrage.Library.Ladder
import AtomicArbitrage.Library.Word64
import Mathlib.Algebra.Order.BigOperators.Group.List

/-!
# Estimates over bins

A swap consumes the bins of a DLMM pool in the order of their prices.  The estimate sorts
the bins with an amount, walks those that hold both tokens, and reports besides the output
how many bins it came to, how many had an amount, and the first three that it consumed.
-/

namespace AtomicArbitrage.Bot

open Ladder

/-! ## The estimate -/

structure DlmmEstimate where
  out : UInt64
  binsConsumed : UInt32
  binsTotal : UInt32
  consumedBins : List (Int32 × UInt64 × UInt64)
deriving DecidableEq

/-- What the loop over the active bins has found so far. -/
structure BinWalk where
  totalOut : ℕ
  binsConsumed : UInt32
  consumedBins : List (Int32 × UInt64 × UInt64)
deriving DecidableEq

namespace DlmmBin

def reserveIn (isXToY : Bool) (bin : DlmmBin) : UInt64 :=
  if isXToY then bin.amountX else bin.amountY

def reserveOut (isXToY : Bool) (bin : DlmmBin) : UInt64 :=
  if isXToY then bin.amountY else bin.amountX

end DlmmBin

/-- A bin that is consumed is counted, and reported if it is one of the first three. -/
def BinWalk.count (walk : BinWalk) (entry : Int32 × UInt64 × UInt64) : BinWalk :=
  { walk with
    binsConsumed := walk.binsConsumed + 1
    consumedBins :=
      if walk.consumedBins.length < 3 then walk.consumedBins ++ [entry]
      else walk.consumedBins }

/-- The loop over the active bins. -/
def walkBins (isXToY : Bool) : List DlmmBin → (remainingIn : ℕ) → BinWalk → BinWalk
  | [], _, walk => walk
  | bin :: bins, remainingIn, walk =>
      let reserveIn := (bin.reserveIn isXToY).toNat
      let reserveOut := (bin.reserveOut isXToY).toNat
      if reserveIn = 0 ∨ reserveOut = 0 then walkBins isXToY bins remainingIn walk
      else
        let walk := walk.count (bin.binId, bin.reserveIn isXToY, bin.reserveOut isXToY)
        if remainingIn ≤ reserveIn then
          { walk with totalOut := walk.totalOut + reserveOut * remainingIn / reserveIn }
        else
          walkBins isXToY bins (remainingIn - reserveIn)
            { walk with totalOut := walk.totalOut + reserveOut }

/-- `estimate_dlmm_swap_output_full`.  The code truncates the floating product of the fee and ten
thousand, which is one basis point short for some whole fees; here the product is exact. -/
def estimateDlmmSwapOutputFull (bins : List DlmmBin) (amountIn : UInt64) (isXToY : Bool)
    (fee : ℚ) : DlmmEstimate :=
  let feeBps := asU128 (fee * 10000)
  let amountAfterFee := afterFee amountIn.toNat feeBps % 2 ^ 64
  if bins = [] ∨ amountAfterFee = 0 then
    { out := 0, binsConsumed := 0, binsTotal := 0, consumedBins := [] }
  else
    let active := activeBins bins isXToY
    let walk := walkBins isXToY active amountAfterFee
      { totalOut := 0, binsConsumed := 0, consumedBins := [] }
    { out := UInt64.ofNat walk.totalOut
      binsConsumed := walk.binsConsumed
      binsTotal := UInt32.ofNat active.length
      consumedBins := walk.consumedBins }

/-! ## Bins as levels -/

namespace DlmmBin

/-- What a bin takes. -/
def depth (isXToY : Bool) (bin : DlmmBin) : ℕ := (bin.reserveIn isXToY).toNat

/-- What a bin pays at its price for what it takes. -/
def pay (isXToY : Bool) (bin : DlmmBin) (taken : ℕ) : ℕ :=
  (bin.reserveOut isXToY).toNat * taken / (bin.reserveIn isXToY).toNat

/-- The bin holds both tokens. -/
def TwoSided (bin : DlmmBin) : Prop := bin.amountX ≠ 0 ∧ bin.amountY ≠ 0

instance : DecidablePred TwoSided :=
  fun bin => inferInstanceAs (Decidable (bin.amountX ≠ 0 ∧ bin.amountY ≠ 0))

/-- What the estimate reports of a bin. -/
def entry (isXToY : Bool) (bin : DlmmBin) : Int32 × UInt64 × UInt64 :=
  (bin.binId, bin.reserveIn isXToY, bin.reserveOut isXToY)

variable {isXToY : Bool} {bin : DlmmBin}

theorem increasing_pay : Increasing (depth isXToY) (pay isXToY) := by
  intro bin less more le _
  exact Nat.div_le_div_right (Nat.mul_le_mul_left _ le)

theorem twoSided_iff :
    bin.TwoSided ↔
      ¬((bin.reserveIn isXToY).toNat = 0 ∨ (bin.reserveOut isXToY).toNat = 0) := by
  have zero (word : UInt64) : word.toNat = 0 ↔ word = 0 :=
    ⟨fun same => UInt64.toNat_inj.mp same, fun same => same ▸ rfl⟩
  rw [zero, zero, not_or]
  cases isXToY with
  | true => exact Iff.rfl
  | false => exact And.comm

theorem TwoSided.depth_pos (twoSided : bin.TwoSided) : 0 < bin.depth isXToY :=
  Nat.pos_of_ne_zero (not_or.mp (twoSided_iff.mp twoSided)).1

/-- A bin that is exhausted pays all it has. -/
theorem pay_depth (twoSided : bin.TwoSided) :
    bin.pay isXToY (bin.depth isXToY) = (bin.reserveOut isXToY).toNat :=
  Nat.mul_div_cancel _ twoSided.depth_pos

end DlmmBin

/-- The bins of a list that hold both tokens. -/
def twoSidedBins (bins : List DlmmBin) : List DlmmBin := bins.filter DlmmBin.TwoSided

theorem mem_twoSidedBins {bins : List DlmmBin} {bin : DlmmBin} :
    bin ∈ twoSidedBins bins ↔ bin ∈ bins ∧ bin.TwoSided := by
  rw [twoSidedBins, List.mem_filter, decide_eq_true_eq]

namespace BinWalk

variable (walk : BinWalk) (entry : Int32 × UInt64 × UInt64)
  (entries : List (Int32 × UInt64 × UInt64))

/-- What the loop has found when it has consumed some more bins. -/
def after (paid : ℕ) : BinWalk where
  totalOut := walk.totalOut + paid
  binsConsumed := walk.binsConsumed + UInt32.ofNat entries.length
  consumedBins := walk.consumedBins ++ entries.take (3 - walk.consumedBins.length)

@[simp] theorem after_nil : walk.after [] 0 = walk := by
  simp [after]

/-- A bin is counted and reported before those that follow it. -/
theorem after_count (paid rest : ℕ) :
    after { walk.count entry with totalOut := walk.totalOut + paid } entries rest =
      walk.after (entry :: entries) (paid + rest) := by
  have reported :
      (walk.count entry).consumedBins ++
          entries.take (3 - (walk.count entry).consumedBins.length) =
        walk.consumedBins ++ (entry :: entries).take (3 - walk.consumedBins.length) := by
    rcases Nat.lt_or_ge walk.consumedBins.length 3 with room | full
    · have pushed : (walk.count entry).consumedBins = walk.consumedBins ++ [entry] :=
        if_pos room
      have left : 3 - walk.consumedBins.length = 3 - (walk.consumedBins.length + 1) + 1 := by
        omega
      rw [pushed, left, List.take_succ_cons, List.append_assoc, List.singleton_append,
        List.length_append, List.length_singleton]
    · have same : (walk.count entry).consumedBins = walk.consumedBins :=
        if_neg (Nat.not_lt.mpr full)
      rw [same, Nat.sub_eq_zero_of_le full, List.take_zero, List.take_zero]
  have counted : (walk.count entry).binsConsumed + UInt32.ofNat entries.length =
      walk.binsConsumed + UInt32.ofNat (entry :: entries).length := by
    rw [List.length_cons, UInt32.ofNat_add, UInt32.add_comm (UInt32.ofNat entries.length),
      ← UInt32.add_assoc]
    rfl
  rw [after, after, reported, counted, Nat.add_assoc]

end BinWalk

section

variable {isXToY : Bool} {bin : DlmmBin} {bins : List DlmmBin} {remainingIn : ℕ} {walk : BinWalk}

theorem twoSidedBins_cons (twoSided : bin.TwoSided) :
    twoSidedBins (bin :: bins) = bin :: twoSidedBins bins :=
  List.filter_cons_of_pos (decide_eq_true twoSided)

theorem twoSidedBins_cons_of_not (oneSided : ¬bin.TwoSided) :
    twoSidedBins (bin :: bins) = twoSidedBins bins :=
  List.filter_cons_of_neg (by simpa using oneSided)

theorem walkBins_skip (oneSided : ¬bin.TwoSided) :
    walkBins isXToY (bin :: bins) remainingIn walk = walkBins isXToY bins remainingIn walk := by
  have either : (bin.reserveIn isXToY).toNat = 0 ∨ (bin.reserveOut isXToY).toNat = 0 := by
    by_contra both
    exact oneSided (DlmmBin.twoSided_iff.mpr both)
  exact if_pos either

theorem walkBins_ends (twoSided : bin.TwoSided) (ends : remainingIn ≤ bin.depth isXToY) :
    walkBins isXToY (bin :: bins) remainingIn walk =
      { walk.count (bin.entry isXToY) with
        totalOut := walk.totalOut + bin.pay isXToY remainingIn } := by
  rw [walkBins, if_neg (DlmmBin.twoSided_iff.mp twoSided)]
  exact if_pos ends

theorem walkBins_exhausts (twoSided : bin.TwoSided) (exhausts : bin.depth isXToY < remainingIn) :
    walkBins isXToY (bin :: bins) remainingIn walk =
      walkBins isXToY bins (remainingIn - bin.depth isXToY)
        { walk.count (bin.entry isXToY) with
          totalOut := walk.totalOut + bin.pay isXToY (bin.depth isXToY) } := by
  rw [walkBins, if_neg (DlmmBin.twoSided_iff.mp twoSided), DlmmBin.pay_depth twoSided]
  exact if_neg (Nat.not_le.mpr exhausts)

/-- The loop walks the ladder of the bins that hold both tokens. -/
theorem walkBins_eq (bins : List DlmmBin) (remainingIn : ℕ) (walk : BinWalk) :
    walkBins isXToY bins remainingIn walk =
      walk.after
        ((reached (DlmmBin.depth isXToY) (twoSidedBins bins) remainingIn).map
          (DlmmBin.entry isXToY))
        (fill (DlmmBin.depth isXToY) (DlmmBin.pay isXToY) (twoSidedBins bins) remainingIn) := by
  induction bins generalizing remainingIn walk with
  | nil => exact walk.after_nil.symm
  | cons bin bins ih =>
      by_cases twoSided : bin.TwoSided
      · rw [twoSidedBins_cons twoSided]
        rcases Nat.lt_or_ge (bin.depth isXToY) remainingIn with exhausts | ends
        · rw [walkBins_exhausts twoSided exhausts, ih, fill_cons_of_lt exhausts,
            reached_cons_of_lt exhausts, List.map_cons, BinWalk.after_count]
        · rw [walkBins_ends twoSided ends, fill_cons_of_le ends, reached_cons_of_le ends,
            List.map_singleton, ← Nat.add_zero (bin.pay isXToY remainingIn),
            ← BinWalk.after_count, BinWalk.after_nil]
          rfl
      · rw [walkBins_skip twoSided, twoSidedBins_cons_of_not twoSided, ih]

theorem fillBins_cons (totalOut : ℕ) :
    fillBins isXToY (bin :: bins) remainingIn totalOut =
      if (bin.reserveIn isXToY).toNat = 0 ∨ (bin.reserveOut isXToY).toNat = 0 then
        fillBins isXToY bins remainingIn totalOut
      else if remainingIn ≤ bin.depth isXToY then totalOut + bin.pay isXToY remainingIn
      else fillBins isXToY bins (remainingIn - bin.depth isXToY)
        (totalOut + (bin.reserveOut isXToY).toNat) := by
  cases isXToY with
  | true => rfl
  | false => rfl

/-- The estimate without the counts walks the same ladder. -/
theorem fillBins_eq (bins : List DlmmBin) (remainingIn totalOut : ℕ) :
    fillBins isXToY bins remainingIn totalOut = totalOut +
      fill (DlmmBin.depth isXToY) (DlmmBin.pay isXToY) (twoSidedBins bins) remainingIn := by
  induction bins generalizing remainingIn totalOut with
  | nil => rfl
  | cons bin bins ih =>
      rw [fillBins_cons]
      by_cases twoSided : bin.TwoSided
      · rw [if_neg (DlmmBin.twoSided_iff.mp twoSided), twoSidedBins_cons twoSided]
        rcases Nat.lt_or_ge (bin.depth isXToY) remainingIn with exhausts | ends
        · rw [if_neg (Nat.not_le.mpr exhausts), ih, fill_cons_of_lt exhausts,
            DlmmBin.pay_depth twoSided, Nat.add_assoc]
        · rw [if_pos ends, fill_cons_of_le ends]
      · have either : (bin.reserveIn isXToY).toNat = 0 ∨ (bin.reserveOut isXToY).toNat = 0 := by
          by_contra both
          exact twoSided (DlmmBin.twoSided_iff.mpr both)
        rw [if_pos either, twoSidedBins_cons_of_not twoSided, ih]

/-- The two estimates have one output. -/
theorem estimateDlmmSwapOutput_eq (bins : List DlmmBin) (amountIn : UInt64) (isXToY : Bool)
    (fee : ℚ) :
    estimateDlmmSwapOutput bins amountIn.toNat isXToY fee =
      (estimateDlmmSwapOutputFull bins amountIn isXToY fee).out.toNat := by
  simp only [estimateDlmmSwapOutput, estimateDlmmSwapOutputFull]
  split
  · rfl
  · rw [fillBins_eq, walkBins_eq]
    exact UInt64.toNat_ofNat'.symm

/-! ## What it computes -/

/-- What is left of an amount after a fee of a whole number of basis points. -/
def leftAfterFee (amountIn : UInt64) (feeBps : ℕ) : ℕ :=
  amountIn.toNat * (10000 - feeBps) / 10000

theorem leftAfterFee_le (amountIn : UInt64) (feeBps : ℕ) :
    leftAfterFee amountIn feeBps ≤ amountIn.toNat := by
  apply Nat.div_le_of_le_mul
  rw [Nat.mul_comm]
  exact Nat.mul_le_mul_right _ (Nat.sub_le _ _)

theorem leftAfterFee_zero (amountIn : UInt64) : leftAfterFee amountIn 0 = amountIn.toNat :=
  Nat.mul_div_cancel _ (by norm_num)

theorem leftAfterFee_mono {less more : UInt64} (le : less ≤ more) (feeBps : ℕ) :
    leftAfterFee less feeBps ≤ leftAfterFee more feeBps :=
  Nat.div_le_div_right (Nat.mul_le_mul_right _ (UInt64.le_iff_toNat_le.mp le))

theorem leftAfterFee_anti (amountIn : UInt64) {low high : ℕ} (le : low ≤ high) :
    leftAfterFee amountIn high ≤ leftAfterFee amountIn low :=
  Nat.div_le_div_right (Nat.mul_le_mul_left _ (Nat.sub_le_sub_left le _))

theorem afterFee_eq (amountIn : UInt64) {feeBps : ℕ} (fee : feeBps ≤ 10000) :
    afterFee amountIn.toNat (asU128 ((feeBps : ℚ) / 10000 * 10000)) % 2 ^ 64 =
      leftAfterFee amountIn feeBps := by
  rw [asU128_bps (by omega), afterFee_word amountIn fee, ← leftAfterFee]
  exact Nat.mod_eq_of_lt ((leftAfterFee_le _ _).trans_lt amountIn.toNat_lt)

/-- The bins that hold both tokens, in the order in which a swap consumes them. -/
def tradedBins (bins : List DlmmBin) (isXToY : Bool) : List DlmmBin :=
  twoSidedBins (activeBins bins isXToY)

/-- The bins that a swap of an amount counts as consumed. -/
def countedBins (bins : List DlmmBin) (isXToY : Bool) (amountAfterFee : ℕ) : List DlmmBin :=
  if amountAfterFee = 0 then []
  else reached (DlmmBin.depth isXToY) (tradedBins bins isXToY) amountAfterFee

/-- What the bins pay for an amount. -/
def binsPay (bins : List DlmmBin) (isXToY : Bool) (amountAfterFee : ℕ) : ℕ :=
  fill (DlmmBin.depth isXToY) (DlmmBin.pay isXToY) (tradedBins bins isXToY) amountAfterFee

/-- The bin has an amount. -/
def DlmmBin.Active (bin : DlmmBin) : Prop := bin.amountX > 0 ∨ bin.amountY > 0

instance : DecidablePred DlmmBin.Active :=
  fun bin => inferInstanceAs (Decidable (bin.amountX > 0 ∨ bin.amountY > 0))

theorem DlmmBin.TwoSided.active (twoSided : bin.TwoSided) : bin.Active :=
  .inl (UInt64.pos_iff_ne_zero.mpr twoSided.1)

theorem activeBins_perm (bins : List DlmmBin) (isXToY : Bool) :
    (activeBins bins isXToY).Perm (bins.filter DlmmBin.Active) := by
  cases isXToY with
  | true => exact List.mergeSort_perm _ _
  | false => exact List.mergeSort_perm _ _

theorem tradedBins_perm (bins : List DlmmBin) (isXToY : Bool) :
    (tradedBins bins isXToY).Perm (twoSidedBins bins) := by
  have both : twoSidedBins (bins.filter DlmmBin.Active) = twoSidedBins bins := by
    rw [twoSidedBins, List.filter_filter, twoSidedBins]
    apply List.filter_congr
    intro bin _
    rw [← Bool.decide_and, decide_eq_decide]
    exact and_iff_left_of_imp DlmmBin.TwoSided.active
  rw [← both]
  exact (activeBins_perm bins isXToY).filter _

theorem twoSided_of_mem_traded (inside : bin ∈ tradedBins bins isXToY) : bin.TwoSided :=
  (mem_twoSidedBins.mp inside).2

theorem twoSided_of_mem_counted {amountAfterFee : ℕ}
    (inside : bin ∈ countedBins bins isXToY amountAfterFee) : bin.TwoSided := by
  rw [countedBins] at inside
  split at inside
  · exact absurd inside List.not_mem_nil
  · exact twoSided_of_mem_traded ((reached_isInitial _ _).subset inside)

theorem binsPay_zero (bins : List DlmmBin) (isXToY : Bool) : binsPay bins isXToY 0 = 0 := by
  rw [binsPay]
  cases tradedBins bins isXToY with
  | nil => rfl
  | cons bin bins =>
      rw [fill_cons_of_le (Nat.zero_le _), DlmmBin.pay, Nat.mul_zero, Nat.zero_div]

theorem binsPay_nil (isXToY : Bool) (amountAfterFee : ℕ) :
    binsPay [] isXToY amountAfterFee = 0 := by
  rw [binsPay, (tradedBins_perm [] isXToY).eq_nil]
  rfl

theorem countedBins_nil (isXToY : Bool) (amountAfterFee : ℕ) :
    countedBins [] isXToY amountAfterFee = [] := by
  rw [countedBins, (tradedBins_perm [] isXToY).eq_nil]
  split
  · rfl
  · rfl

/-- What bins that hold both tokens pay together is what they hold of one. -/
theorem payout_eq (twoSided : ∀ bin ∈ bins, bin.TwoSided) :
    payout (DlmmBin.depth isXToY) (DlmmBin.pay isXToY) bins =
      (bins.map fun bin => (bin.reserveOut isXToY).toNat).sum := by
  rw [payout]
  congr 1
  apply List.map_congr_left
  intro bin inside
  exact DlmmBin.pay_depth (twoSided bin inside)

/-- The estimate in terms of the ladder. -/
theorem estimateFull_eq (bins : List DlmmBin) (amountIn : UInt64) (isXToY : Bool) {feeBps : ℕ}
    (fee : feeBps ≤ 10000) :
    estimateDlmmSwapOutputFull bins amountIn isXToY (feeBps / 10000) =
      let left := leftAfterFee amountIn feeBps
      let counted := countedBins bins isXToY left
      { out := UInt64.ofNat (binsPay bins isXToY left)
        binsConsumed := UInt32.ofNat counted.length
        binsTotal :=
          if bins = [] ∨ left = 0 then 0
          else UInt32.ofNat (bins.filter DlmmBin.Active).length
        consumedBins := (counted.map (DlmmBin.entry isXToY)).take 3 } := by
  simp only [estimateDlmmSwapOutputFull, afterFee_eq amountIn fee]
  split
  · next early =>
      rcases early with rfl | zero
      · rw [binsPay_nil, countedBins_nil]
        rfl
      · rw [zero, binsPay_zero, countedBins, if_pos rfl]
        rfl
  · next late =>
      rw [walkBins_eq, ← (activeBins_perm bins isXToY).length_eq, ← tradedBins, countedBins,
        if_neg (not_or.mp late).2]
      simp only [BinWalk.after, List.length_map, List.length_nil, List.nil_append,
        Nat.zero_add, UInt32.zero_add, binsPay]

/-! ## Laws -/

/-- The bins of a pool hold no more of either token than there can be. -/
structure SupplyFits (bins : List DlmmBin) : Prop where
  x : (bins.map fun bin => bin.amountX.toNat).sum < 2 ^ 64
  y : (bins.map fun bin => bin.amountY.toNat).sum < 2 ^ 64

theorem SupplyFits.reserveIn (fits : SupplyFits bins) (isXToY : Bool) :
    (bins.map fun bin => (bin.reserveIn isXToY).toNat).sum < 2 ^ 64 := by
  cases isXToY with
  | true => exact fits.x
  | false => exact fits.y

theorem SupplyFits.reserveOut (fits : SupplyFits bins) (isXToY : Bool) :
    (bins.map fun bin => (bin.reserveOut isXToY).toNat).sum < 2 ^ 64 := by
  cases isXToY with
  | true => exact fits.y
  | false => exact fits.x

/-- The bins that are traded hold no more than all bins. -/
theorem sum_traded_le (bins : List DlmmBin) (isXToY : Bool) (amount : DlmmBin → ℕ) :
    ((tradedBins bins isXToY).map amount).sum ≤ (bins.map amount).sum := by
  rw [((tradedBins_perm bins isXToY).map amount).sum_eq]
  apply List.Sublist.sum_le_sum (List.filter_sublist.map amount)
  intro value _
  exact Nat.zero_le value

theorem capacity_traded_lt (fits : SupplyFits bins) (isXToY : Bool) :
    capacity (DlmmBin.depth isXToY) (tradedBins bins isXToY) < 2 ^ 64 :=
  (sum_traded_le bins isXToY _).trans_lt (fits.reserveIn isXToY)

/-- No output is cut to the word that is returned. -/
theorem binsPay_lt (fits : SupplyFits bins) (isXToY : Bool) (amountAfterFee : ℕ) :
    binsPay bins isXToY amountAfterFee < 2 ^ 64 := by
  apply (fill_le_payout DlmmBin.increasing_pay _ _).trans_lt
  rw [payout_eq fun bin inside => twoSided_of_mem_traded inside]
  exact (sum_traded_le bins isXToY _).trans_lt (fits.reserveOut isXToY)

/-- Nor more than what the counted bins hold, which is paid when they are exhausted. -/
theorem binsPay_le_counted (bins : List DlmmBin) (isXToY : Bool) (amountAfterFee : ℕ) :
    binsPay bins isXToY amountAfterFee ≤
        ((countedBins bins isXToY amountAfterFee).map fun bin =>
          (bin.reserveOut isXToY).toNat).sum ∧
      (((countedBins bins isXToY amountAfterFee).map fun bin =>
          (bin.reserveIn isXToY).toNat).sum ≤ amountAfterFee →
        binsPay bins isXToY amountAfterFee =
          ((countedBins bins isXToY amountAfterFee).map fun bin =>
            (bin.reserveOut isXToY).toNat).sum) := by
  have twoSided : ∀ bin ∈ countedBins bins isXToY amountAfterFee, bin.TwoSided :=
    fun bin inside => twoSided_of_mem_counted inside
  have paid : binsPay bins isXToY amountAfterFee =
      fill (DlmmBin.depth isXToY) (DlmmBin.pay isXToY)
        (countedBins bins isXToY amountAfterFee) amountAfterFee := by
    rw [countedBins]
    split
    · next zero => rw [zero, binsPay_zero, fill]
    · exact (fill_reached _ _).symm
  rw [paid, ← payout_eq twoSided]
  constructor
  · exact fill_le_payout DlmmBin.increasing_pay _ _
  · intro covered
    exact fill_of_capacity_le (fun bin inside => (twoSided bin inside).depth_pos) covered

/-- No amount after a fee counts more bins than hold both tokens. -/
theorem length_counted_le (bins : List DlmmBin) (isXToY : Bool) (amountAfterFee : ℕ) :
    (countedBins bins isXToY amountAfterFee).length ≤ (twoSidedBins bins).length := by
  rw [← (tradedBins_perm bins isXToY).length_eq]
  rw [countedBins]
  split
  · exact Nat.zero_le _
  · exact (reached_isInitial _ _).length_le

/-- What the outputs of an estimate obey, for bins and whole fees of up to everything. -/
structure EstimateLaws (bins : List DlmmBin) : Prop where
  mono : ∀ isXToY, ∀ feeBps : ℕ, feeBps ≤ 10000 → ∀ less more, less ≤ more →
    (estimateDlmmSwapOutputFull bins less isXToY (feeBps / 10000)).out ≤
      (estimateDlmmSwapOutputFull bins more isXToY (feeBps / 10000)).out
  anti : ∀ isXToY amountIn, ∀ low high : ℕ, low ≤ high → high ≤ 10000 →
    (estimateDlmmSwapOutputFull bins amountIn isXToY (high / 10000)).out ≤
      (estimateDlmmSwapOutputFull bins amountIn isXToY (low / 10000)).out
  counted : ∀ isXToY amountIn, ∀ feeBps : ℕ, feeBps ≤ 10000 →
    let estimate := estimateDlmmSwapOutputFull bins amountIn isXToY (feeBps / 10000)
    let counted := countedBins bins isXToY (leftAfterFee amountIn feeBps)
    estimate.binsConsumed = UInt32.ofNat counted.length ∧
      estimate.consumedBins = (counted.map (DlmmBin.entry isXToY)).take 3 ∧
      estimate.out.toNat ≤ (counted.map fun bin => (bin.reserveOut isXToY).toNat).sum ∧
      ((counted.map fun bin => (bin.reserveIn isXToY).toNat).sum ≤
          leftAfterFee amountIn feeBps →
        estimate.out.toNat = (counted.map fun bin => (bin.reserveOut isXToY).toNat).sum)
  consumed : ∀ isXToY amountIn, ∀ feeBps : ℕ, feeBps ≤ 10000 →
    (estimateDlmmSwapOutputFull bins amountIn isXToY (feeBps / 10000)).binsConsumed ≤
      (estimateDlmmSwapOutputFull bins amountIn isXToY (feeBps / 10000)).binsTotal

/-- The bins with an amount are as many, up to multiples of what the counter counts, as it
counts of those that hold both tokens. -/
def CountsFit (bins : List DlmmBin) : Prop :=
  min (twoSidedBins bins).length (2 ^ 32 - 1) ≤ (bins.filter DlmmBin.Active).length % 2 ^ 32

instance (bins : List DlmmBin) : Decidable (CountsFit bins) :=
  inferInstanceAs (Decidable (min (twoSidedBins bins).length (2 ^ 32 - 1) ≤
    (bins.filter DlmmBin.Active).length % 2 ^ 32))

/-- The counters are in order for every amount exactly when the counts fit. -/
theorem consumed_le_total_iff (fits : SupplyFits bins) :
    (∀ isXToY amountIn, ∀ feeBps : ℕ, feeBps ≤ 10000 →
      (estimateDlmmSwapOutputFull bins amountIn isXToY (feeBps / 10000)).binsConsumed ≤
        (estimateDlmmSwapOutputFull bins amountIn isXToY (feeBps / 10000)).binsTotal) ↔
      CountsFit bins := by
  constructor
  · intro ordered
    by_contra short
    have less := Nat.not_le.mp short
    -- an amount that reaches just as many bins as the counter can count
    have within : min (twoSidedBins bins).length (2 ^ 32 - 1) ≤ (tradedBins bins true).length := by
      rw [(tradedBins_perm bins true).length_eq]
      exact min_le_left _ _
    have deep : ∀ bin ∈ tradedBins bins true, 0 < bin.depth true :=
      fun bin inside => (twoSided_of_mem_traded inside).depth_pos
    rcases exists_length_reached deep (Nat.zero_lt_of_lt less) within with
      ⟨amount, paid, inside, length⟩
    have small : amount < 2 ^ 64 := inside.trans_lt (capacity_traded_lt fits true)
    rcases Word64.exists_toNat small with ⟨amountIn, same⟩
    have le := ordered true amountIn 0 (Nat.zero_le _)
    have bins_ne : bins ≠ [] := by
      intro empty
      rw [empty] at less
      exact absurd less (Nat.not_lt_zero _)
    rw [estimateFull_eq bins amountIn true (Nat.zero_le _)] at le
    simp only [leftAfterFee_zero, same, countedBins, length, bins_ne,
      paid.ne', or_self, if_false, UInt32.le_iff_toNat_le, UInt32.toNat_ofNat'] at le
    rw [Nat.mod_eq_of_lt (by omega)] at le
    exact absurd le (Nat.not_le.mpr less)
  · intro condition isXToY amountIn feeBps fee
    rw [estimateFull_eq bins amountIn isXToY fee]
    simp only
    split
    · next early =>
        have none : countedBins bins isXToY (leftAfterFee amountIn feeBps) = [] := by
          rcases early with rfl | zero
          · exact countedBins_nil _ _
          · rw [countedBins, if_pos zero]
        rw [none]
        exact UInt32.le_refl _
    · have le := length_counted_le bins isXToY (leftAfterFee amountIn feeBps)
      rw [UInt32.le_iff_toNat_le, UInt32.toNat_ofNat', UInt32.toNat_ofNat']
      apply le_trans _ condition
      apply le_min
      · exact (Nat.mod_le _ _).trans le
      · exact Nat.le_sub_one_of_lt (Nat.mod_lt _ (by norm_num))

/-- With bins whose amounts fit in words, the output is what they pay. -/
theorem out_estimateFull (fits : SupplyFits bins) (amountIn : UInt64) (isXToY : Bool)
    {feeBps : ℕ} (fee : feeBps ≤ 10000) :
    (estimateDlmmSwapOutputFull bins amountIn isXToY (feeBps / 10000)).out.toNat =
      binsPay bins isXToY (leftAfterFee amountIn feeBps) := by
  rw [estimateFull_eq bins amountIn isXToY fee]
  exact UInt64.toNat_ofNat_of_lt' (binsPay_lt fits _ _)

theorem binsPay_mono (bins : List DlmmBin) (isXToY : Bool) : Monotone (binsPay bins isXToY) :=
  fill_mono DlmmBin.increasing_pay _

/-- Fewer bins with an amount than the counter has values can be counted. -/
theorem countsFit_of_lt (few : (bins.filter DlmmBin.Active).length < 2 ^ 32) :
    CountsFit bins := by
  have le : (twoSidedBins bins).length ≤ (bins.filter DlmmBin.Active).length := by
    rw [← (tradedBins_perm bins true).length_eq, ← (activeBins_perm bins true).length_eq]
    exact List.length_filter_le _ _
  rw [CountsFit, Nat.mod_eq_of_lt few]
  exact (min_le_left _ _).trans le

/-- With bins whose amounts fit in words, the estimate obeys its laws exactly when its
counters can count them. -/
theorem laws_iff_countsFit (bins : List DlmmBin) (fits : SupplyFits bins) :
    EstimateLaws bins ↔ CountsFit bins := by
  constructor
  · intro laws
    exact (consumed_le_total_iff fits).mp laws.consumed
  · intro condition
    refine ⟨?_, ?_, ?_, (consumed_le_total_iff fits).mpr condition⟩
    · intro isXToY feeBps fee less more le
      rw [UInt64.le_iff_toNat_le, out_estimateFull fits less isXToY fee,
        out_estimateFull fits more isXToY fee]
      exact binsPay_mono bins isXToY (leftAfterFee_mono le feeBps)
    · intro isXToY amountIn low high le fee
      rw [UInt64.le_iff_toNat_le, out_estimateFull fits amountIn isXToY fee,
        out_estimateFull fits amountIn isXToY (le.trans fee)]
      exact binsPay_mono bins isXToY (leftAfterFee_anti amountIn le)
    · intro isXToY amountIn feeBps fee
      simp only [out_estimateFull fits amountIn isXToY fee]
      rw [estimateFull_eq bins amountIn isXToY fee]
      exact ⟨rfl, rfl, binsPay_le_counted bins isXToY _⟩

/-- With bins whose amounts fit in words, the estimate obeys its laws where fewer bins with an
amount than the counter has values are listed; and in general exactly when its counters can
count them. -/
theorem estimateLaws_iff (bins : List DlmmBin) (fits : SupplyFits bins) :
    ((bins.filter DlmmBin.Active).length < 2 ^ 32 → EstimateLaws bins) ∧
      (EstimateLaws bins ↔ CountsFit bins) :=
  ⟨fun few => (laws_iff_countsFit bins fits).mpr (countsFit_of_lt few),
    laws_iff_countsFit bins fits⟩

/-- Two bins with both tokens around one with a single token and an empty one. -/
theorem estimateLaws_iff_sample :
    EstimateLaws [⟨-1, 1000, 2000⟩, ⟨0, 0, 0⟩, ⟨1, 500, 0⟩, ⟨2, 700, 900⟩] :=
  (estimateLaws_iff _ ⟨by decide, by decide⟩).1 (by decide)

/-- As many bins as the counter has values, with a unit of each token. -/
def manyBins : List DlmmBin := List.replicate (2 ^ 32) ⟨0, 1, 1⟩

theorem not_estimateLaws_many : ¬∀ bins, SupplyFits bins → EstimateLaws bins := by
  intro all
  have twoSided : (twoSidedBins manyBins).length = 2 ^ 32 := by
    rw [twoSidedBins, manyBins, List.filter_replicate_of_pos (by decide), List.length_replicate]
  have active : (manyBins.filter DlmmBin.Active).length = 2 ^ 32 := by
    rw [manyBins, List.filter_replicate_of_pos (by decide), List.length_replicate]
  have fits : SupplyFits manyBins := by
    constructor
    · rw [manyBins, List.map_replicate, List.sum_replicate]
      decide
    · rw [manyBins, List.map_replicate, List.sum_replicate]
      decide
  have counts := (consumed_le_total_iff fits).mp (all manyBins fits).consumed
  rw [CountsFit, twoSided, active] at counts
  exact absurd counts (by decide)

/-! ## Order of the bins -/

/-- No two bins of a list have one id. -/
def DistinctIds (bins : List DlmmBin) : Prop :=
  bins.Pairwise fun left right => left.binId ≠ right.binId

instance (bins : List DlmmBin) : Decidable (DistinctIds bins) :=
  inferInstanceAs (Decidable (bins.Pairwise fun left right => left.binId ≠ right.binId))

/-- Bins with distinct ids are the same bin where neither comes before the other. -/
theorem DistinctIds.eq_of_mem (distinct : DistinctIds bins) {left right : DlmmBin}
    (leftIn : left ∈ bins) (rightIn : right ∈ bins) (same : left.binId = right.binId) :
    left = right := by
  have forth : bins.Pairwise fun left right => left.binId = right.binId → left = right :=
    distinct.imp fun apart same => absurd same apart
  have back : bins.Pairwise fun left right => right.binId = left.binId → right = left :=
    distinct.imp fun apart same => absurd same.symm apart
  exact forth.forall_of_forall_of_flip (fun _ _ _ => rfl) back leftIn rightIn same

/-- The ids are compared by one total order, downwards for one direction. -/
def idBefore (isXToY : Bool) (left right : Int32) : Bool :=
  if isXToY then right ≤ left else left ≤ right

theorem idBefore_trans (left middle right : Int32) (first : idBefore isXToY left middle)
    (second : idBefore isXToY middle right) : idBefore isXToY left right := by
  cases isXToY with
  | true =>
      exact decide_eq_true
        (Int32.le_trans (of_decide_eq_true second) (of_decide_eq_true first))
  | false =>
      exact decide_eq_true
        (Int32.le_trans (of_decide_eq_true first) (of_decide_eq_true second))

theorem idBefore_total (left right : Int32) :
    idBefore isXToY left right || idBefore isXToY right left := by
  rw [Bool.or_eq_true]
  cases isXToY with
  | true => exact (Int32.le_total right left).imp decide_eq_true decide_eq_true
  | false => exact (Int32.le_total left right).imp decide_eq_true decide_eq_true

theorem idBefore_antisymm {left right : Int32} (first : idBefore isXToY left right)
    (second : idBefore isXToY right left) : left = right := by
  cases isXToY with
  | true => exact Int32.le_antisymm (of_decide_eq_true second) (of_decide_eq_true first)
  | false => exact Int32.le_antisymm (of_decide_eq_true first) (of_decide_eq_true second)

theorem activeBins_sorted (bins : List DlmmBin) (isXToY : Bool) :
    (activeBins bins isXToY).Pairwise
      fun left right => idBefore isXToY left.binId right.binId := by
  have sorted : activeBins bins isXToY = (bins.filter DlmmBin.Active).mergeSort
      fun left right => idBefore isXToY left.binId right.binId := by
    cases isXToY with
    | true => rfl
    | false => rfl
  rw [sorted]
  apply List.pairwise_mergeSort
  · intro left middle right
    exact idBefore_trans left.binId middle.binId right.binId
  · intro left right
    exact idBefore_total left.binId right.binId

/-- A list of bins with distinct ids is sorted in one way only. -/
theorem activeBins_congr {other : List DlmmBin} (permuted : bins.Perm other)
    (distinct : DistinctIds bins) (isXToY : Bool) :
    activeBins bins isXToY = activeBins other isXToY := by
  have perm : (activeBins bins isXToY).Perm (activeBins other isXToY) :=
    (activeBins_perm bins isXToY).trans
      ((permuted.filter _).trans (activeBins_perm other isXToY).symm)
  have inside {bin : DlmmBin} (active : bin ∈ activeBins bins isXToY) : bin ∈ bins :=
    List.mem_of_mem_filter ((activeBins_perm bins isXToY).subset active)
  apply perm.eq_of_pairwise _ (activeBins_sorted bins isXToY) (activeBins_sorted other isXToY)
  intro left right leftIn rightIn first second
  exact distinct.eq_of_mem (inside leftIn) (inside (perm.symm.subset rightIn))
    (idBefore_antisymm first second)

/-- The order in which bins are listed does not matter. -/
theorem estimateFull_congr {other : List DlmmBin} (permuted : bins.Perm other)
    (distinct : DistinctIds bins) (amountIn : UInt64) (isXToY : Bool) (fee : ℚ) :
    estimateDlmmSwapOutputFull bins amountIn isXToY fee =
      estimateDlmmSwapOutputFull other amountIn isXToY fee := by
  have empty : bins = [] ↔ other = [] := by
    constructor
    · intro none
      exact (none ▸ permuted).symm.eq_nil
    · intro none
      exact (none ▸ permuted).eq_nil
  simp only [estimateDlmmSwapOutputFull, activeBins_congr permuted distinct isXToY, empty]

end

end AtomicArbitrage.Bot

import AtomicArbitrage.Bot.BinArrays
import AtomicArbitrage.Program.DlmmPricing

/-!
# Agreement on bins

The program and the client decode bin arrays alike and walk the same bins in the same
order.  Within a bin the client prices at the price of the bin, as for a limit order, and
the program with a constant product; each bin that is exhausted pays half in the program.
-/

namespace AtomicArbitrage.Agreement

open AtomicArbitrage.Bot Ladder
open Program (PricedBin)

/-! ## One decoding -/

/-- The bins that the client parses from some arrays. -/
def clientBins (arrays : List (List UInt8)) : List DlmmBin :=
  arrays.foldl (fun out bdata => parseBinArrayData bdata out) []

theorem clientBins_eq (arrays : List (List UInt8)) :
    clientBins arrays = arrays.flatMap arrayBins := by
  have from_ (out : List DlmmBin) :
      arrays.foldl (fun out bdata => parseBinArrayData bdata out) out =
        out ++ arrays.flatMap arrayBins := by
    induction arrays generalizing out with
    | nil => exact (List.append_nil out).symm
    | cons bdata arrays ih =>
        rw [List.foldl_cons, ih, parseBinArrayData, List.flatMap_cons, List.append_assoc]
  exact from_ []

/-- The bins of a list that the program keeps. -/
def keptBins (isXToY : Bool) (bins : List DlmmBin) : List PricedBin :=
  (twoSidedBins bins).map (DlmmBin.entry isXToY)

theorem keptBins_append (isXToY : Bool) (left right : List DlmmBin) :
    keptBins isXToY (left ++ right) = keptBins isXToY left ++ keptBins isXToY right := by
  rw [keptBins, twoSidedBins, List.filter_append, List.map_append]
  rfl

/-- The program keeps a bin when it holds something on both sides of the swap. -/
theorem keptBins_cons (isXToY : Bool) (bin : DlmmBin) (bins : List DlmmBin) :
    keptBins isXToY (bin :: bins) =
      if bin.reserveIn isXToY > 0 ∧ bin.reserveOut isXToY > 0 then
        bin.entry isXToY :: keptBins isXToY bins
      else keptBins isXToY bins := by
  have same : bin.reserveIn isXToY > 0 ∧ bin.reserveOut isXToY > 0 ↔ bin.TwoSided := by
    rw [gt_iff_lt, gt_iff_lt, UInt64.pos_iff_ne_zero, UInt64.pos_iff_ne_zero]
    cases isXToY with
    | true => exact Iff.rfl
    | false => exact And.comm
  by_cases twoSided : bin.TwoSided
  · rw [if_pos (same.mpr twoSided), keptBins, twoSidedBins_cons twoSided, List.map_cons]
    rfl
  · rw [if_neg (same.not.mpr twoSided), keptBins, twoSidedBins_cons_of_not twoSided]
    rfl

theorem collectBins_eq (data : List UInt8) (arrIndex : ℤ) (stride : ℕ) (isXToY : Bool)
    (count i : ℕ) :
    Program.collectBins data arrIndex stride isXToY count i =
      keptBins isXToY (parseBins data arrIndex stride count i) := by
  induction count generalizing i with
  | zero => rfl
  | succ count ih =>
      by_cases cut : binArrayHeaderSize + i * stride + 16 > data.length
      · have none : Program.readBinAmounts data (Program.binArrayHeaderSize + i * stride) =
            Option.none := if_pos cut
        simp only [Program.collectBins, none, parseBins, if_pos cut]
        rfl
      · have some : Program.readBinAmounts data (Program.binArrayHeaderSize + i * stride) =
            Option.some (Word64.readAt data (binArrayHeaderSize + i * stride),
              Word64.readAt data (binArrayHeaderSize + i * stride + 8)) := if_neg cut
        rw [parseBins, if_neg cut, keptBins_cons, ← ih]
        simp only [Program.collectBins, some]
        cases isXToY with
        | true => rfl
        | false => rfl

theorem programBins_eq (isXToY : Bool) (data : List UInt8) :
    Program.arrayBins isXToY data = keptBins isXToY (arrayBins data) := by
  have header : Program.binArrayHeaderSize = binArrayHeaderSize := rfl
  rw [Program.arrayBins, arrayBins, header]
  by_cases short : data.length < binArrayHeaderSize
  · rw [if_pos short, if_pos short]
    rfl
  · rw [if_neg short, if_neg short, binStride?]
    simp only
    generalize data.getD 16 1 = version
    split
    · exact collectBins_eq data _ 128 isXToY 70 0
    · exact collectBins_eq data _ 144 isXToY 70 0
    · simp only
      rfl

/-- The program keeps the bins that the client parses and that hold both tokens. -/
theorem flatMap_programBins_eq (isXToY : Bool) (arrays : List (List UInt8)) :
    arrays.flatMap (Program.arrayBins isXToY) = keptBins isXToY (clientBins arrays) := by
  rw [clientBins_eq]
  induction arrays with
  | nil => rfl
  | cons data arrays ih =>
      rw [List.flatMap_cons, List.flatMap_cons, keptBins_append, programBins_eq, ih]

/-! ## One order -/

section

variable {bins : List DlmmBin} {isXToY : Bool}

/-- Both sort bins with distinct ids in one way. -/
theorem sorted_keptBins (distinct : DistinctIds bins) (isXToY : Bool) :
    (keptBins isXToY bins).mergeSort (Program.walkedBefore isXToY) =
      (tradedBins bins isXToY).map (DlmmBin.entry isXToY) := by
  have perm : ((keptBins isXToY bins).mergeSort (Program.walkedBefore isXToY)).Perm
      ((tradedBins bins isXToY).map (DlmmBin.entry isXToY)) :=
    (List.mergeSort_perm _ _).trans ((tradedBins_perm bins isXToY).map _).symm
  have inside {bin : DlmmBin} (traded : bin ∈ tradedBins bins isXToY) : bin ∈ bins :=
    (mem_twoSidedBins.mp ((tradedBins_perm bins isXToY).subset traded)).1
  have programSorted : ((keptBins isXToY bins).mergeSort
      (Program.walkedBefore isXToY)).Pairwise
        fun left right => Program.walkedBefore isXToY left right = true := by
    apply List.pairwise_mergeSort
    · intro left middle right
      exact idBefore_trans left.1 middle.1 right.1
    · intro left right
      exact idBefore_total left.1 right.1
  have clientSorted : ((tradedBins bins isXToY).map (DlmmBin.entry isXToY)).Pairwise
      fun left right => Program.walkedBefore isXToY left right = true :=
    List.pairwise_map.mpr ((activeBins_sorted bins isXToY).filter _)
  refine perm.eq_of_pairwise ?_ programSorted clientSorted
  intro left right leftIn rightIn first second
  rcases List.mem_map.mp (perm.subset leftIn) with ⟨leftBin, leftTraded, rfl⟩
  rcases List.mem_map.mp rightIn with ⟨rightBin, rightTraded, rfl⟩
  rw [distinct.eq_of_mem (inside leftTraded) (inside rightTraded)
    (idBefore_antisymm first second)]

/-- There are no more bins with distinct ids than ids. -/
theorem length_le_of_distinct (distinct : DistinctIds bins) : bins.length ≤ 2 ^ 32 := by
  have nodup : (bins.map fun bin => bin.binId.toBitVec.toNat).Nodup := by
    apply List.pairwise_map.mpr
    apply distinct.imp
    intro left right apart same
    exact apart (Int32.toBitVec_inj.mp (BitVec.eq_of_toNat_eq same))
  have small : (bins.map fun bin => bin.binId.toBitVec.toNat).toFinset ⊆
      Finset.range (2 ^ 32) := by
    intro id member
    rcases List.mem_map.mp (List.mem_toFinset.mp member) with ⟨bin, _, rfl⟩
    exact Finset.mem_range.mpr bin.binId.toBitVec.isLt
  have card := Finset.card_le_card small
  rw [List.toFinset_card_of_nodup nodup, List.length_map, Finset.card_range] at card
  exact card

end

/-! ## Two prices -/

section

variable (isXToY : Bool) (bin : DlmmBin) (taken : ℕ)

/-- What the program pays for what a bin takes. -/
def curvePay : ℕ :=
  ConstantProduct.output (bin.reserveIn isXToY).toNat (bin.reserveOut isXToY).toNat taken

/-- What the program pays less than the client. -/
def curveLoss : ℕ := bin.pay isXToY taken - curvePay isXToY bin taken

variable {isXToY bin taken}

theorem curvePay_le (twoSided : bin.TwoSided) : curvePay isXToY bin taken ≤ bin.pay isXToY taken :=
  Nat.div_le_div_left (Nat.le_add_right _ _) twoSided.depth_pos

/-- A bin that is exhausted pays less in the program. -/
theorem curveLoss_depth_pos (twoSided : bin.TwoSided) :
    0 < curveLoss isXToY bin (bin.depth isXToY) := by
  have stocked : 0 < (bin.reserveOut isXToY).toNat :=
    Nat.pos_of_ne_zero (not_or.mp (DlmmBin.twoSided_iff.mp twoSided)).2
  rw [curveLoss, DlmmBin.pay_depth twoSided]
  exact Nat.sub_pos_of_lt (ConstantProduct.output_lt twoSided.depth_pos stocked)

/-- One that takes a part pays as much exactly where its price also covers the part it
takes. -/
theorem curveLoss_eq_zero_iff (twoSided : bin.TwoSided) :
    curveLoss isXToY bin taken = 0 ↔
      (bin.reserveOut isXToY).toNat * taken / (bin.reserveIn isXToY).toNat *
          ((bin.reserveIn isXToY).toNat + taken) ≤
        (bin.reserveOut isXToY).toNat * taken := by
  rw [curveLoss, Nat.sub_eq_zero_iff_le]
  exact Nat.le_div_iff_mul_le (Nat.add_pos_left twoSided.depth_pos taken)

end

section

variable {bins : List DlmmBin} {isXToY : Bool}

/-- What the program pays over some bins less than the client, before either total is cut
to a word. -/
def shortfall (bins : List DlmmBin) (isXToY : Bool) (amountIn : ℕ) : ℕ :=
  fill (DlmmBin.depth isXToY) (curveLoss isXToY) (tradedBins bins isXToY) amountIn

/-- The swap ends in the first bin it comes to, at an amount for which the curve of the bin
pays as much as its price. -/
def EndsAtPrice (bins : List DlmmBin) (isXToY : Bool) (amountIn : ℕ) : Prop :=
  ∃ bin ∈ (tradedBins bins isXToY).head?,
    amountIn ≤ (bin.reserveIn isXToY).toNat ∧
      (bin.reserveOut isXToY).toNat * amountIn / (bin.reserveIn isXToY).toNat *
          ((bin.reserveIn isXToY).toNat + amountIn) ≤
        (bin.reserveOut isXToY).toNat * amountIn

theorem shortfall_eq_zero_iff {amountIn : ℕ} :
    shortfall bins isXToY amountIn = 0 ↔
      twoSidedBins bins = [] ∨ EndsAtPrice bins isXToY amountIn := by
  have empty : twoSidedBins bins = [] ↔ tradedBins bins isXToY = [] := by
    rw [← List.length_eq_zero_iff, ← List.length_eq_zero_iff,
      (tradedBins_perm bins isXToY).length_eq]
  rw [empty, shortfall, EndsAtPrice]
  cases traded : tradedBins bins isXToY with
  | nil => exact iff_of_true rfl (.inl rfl)
  | cons bin rest =>
      have twoSided : bin.TwoSided :=
        twoSided_of_mem_traded (traded ▸ List.mem_cons_self)
      rcases Nat.lt_or_ge (bin.depth isXToY) amountIn with exhausts | ends
      · have positive : 0 < curveLoss isXToY bin (bin.depth isXToY) :=
          curveLoss_depth_pos twoSided
        rw [fill_cons_of_lt exhausts]
        apply iff_of_false
        · exact (Nat.add_pos_left positive _).ne'
        · intro either
          rcases either with none | ⟨first, head, ends, _⟩
          · cases none
          · cases head
            exact absurd ends (Nat.not_le.mpr exhausts)
      · rw [fill_cons_of_le ends, curveLoss_eq_zero_iff twoSided]
        constructor
        · intro covered
          exact .inr ⟨bin, rfl, ends, covered⟩
        · intro either
          rcases either with none | ⟨first, head, _, covered⟩
          · cases none
          · cases head
            exact covered

/-- The program's price over bins with distinct ids. -/
theorem estimateDlmm_program {arrays : List (List UInt8)}
    (distinct : DistinctIds (clientBins arrays)) (amountIn : UInt64) (isXToY : Bool) :
    Program.estimateDlmmSwapOutput arrays amountIn isXToY =
      if amountIn = 0 then .ok 0
      else if twoSidedBins (clientBins arrays) = [] then
        .error (Program.arbErr Program.arbEmptyBins)
      else .ok (UInt64.ofNat (fill (DlmmBin.depth isXToY) (curvePay isXToY)
        (tradedBins (clientBins arrays) isXToY) amountIn.toNat)) := by
  rw [Program.estimateDlmmSwapOutput]
  split
  · rfl
  simp only [flatMap_programBins_eq, sorted_keptBins distinct isXToY]
  by_cases none : twoSidedBins (clientBins arrays) = []
  · rw [keptBins, none, List.map_nil, Outcome.require_of_not (not_not.mpr rfl), if_pos rfl]
    rfl
  have kept : keptBins isXToY (clientBins arrays) ≠ [] := by
    rw [keptBins, ne_eq, List.map_eq_nil_iff]
    exact none
  have held : ∀ bin ∈ (tradedBins (clientBins arrays) isXToY).map (DlmmBin.entry isXToY),
      0 < bin.2.1 := by
    intro bin inside
    rcases List.mem_map.mp inside with ⟨traded, member, rfl⟩
    exact UInt64.lt_iff_toNat_lt.mpr (twoSided_of_mem_traded member).depth_pos
  have room : 0 + ((tradedBins (clientBins arrays) isXToY).map
      (DlmmBin.entry isXToY)).length * 2 ^ 64 ≤ 2 ^ 128 := by
    have ids := length_le_of_distinct distinct
    have traded : (tradedBins (clientBins arrays) isXToY).length ≤ (clientBins arrays).length :=
      (tradedBins_perm _ _).length_eq.trans_le (List.length_filter_le _ _)
    rw [List.length_map]
    omega
  have required : Outcome.require (keptBins isXToY (clientBins arrays) ≠ [])
      (Program.arbErr Program.arbEmptyBins) = .ok () := Outcome.require_eq_ok.mpr kept
  rw [if_neg none, required, Outcome.ok_bind, Program.priceBins_eq held room, Outcome.ok_bind,
    Nat.zero_add, fill_map]
  rfl

/-- An output as the client reports it: no bins are worth nothing. -/
def reported : Exec UInt64 → Option UInt64
  | .ok out => some out
  | .error reason => if reason = Program.arbErr Program.arbEmptyBins then some 0 else none

/-- The two price a swap over some arrays alike. -/
def PricedAlike (arrays : List (List UInt8)) (amountIn : UInt64) (isXToY : Bool) : Prop :=
  reported (Program.estimateDlmmSwapOutput arrays amountIn isXToY) =
    some (estimateDlmmSwapOutputFull (clientBins arrays) amountIn isXToY 0).out

instance (arrays : List (List UInt8)) (amountIn : UInt64) (isXToY : Bool) :
    Decidable (PricedAlike arrays amountIn isXToY) :=
  inferInstanceAs (Decidable (_ = _))

theorem out_without_fee (bins : List DlmmBin) (amountIn : UInt64) (isXToY : Bool) :
    (estimateDlmmSwapOutputFull bins amountIn isXToY 0).out =
      UInt64.ofNat (binsPay bins isXToY amountIn.toNat) := by
  have zero : (0 : ℚ) = ((0 : ℕ) : ℚ) / 10000 := by rw [Nat.cast_zero, zero_div]
  rw [zero, estimateFull_eq bins amountIn isXToY (Nat.zero_le _), leftAfterFee_zero]

/-- What the program's walk pays and the shortfall are what the client's walk pays. -/
theorem curve_add_shortfall (bins : List DlmmBin) (isXToY : Bool) (amountIn : ℕ) :
    fill (DlmmBin.depth isXToY) (curvePay isXToY) (tradedBins bins isXToY) amountIn +
        shortfall bins isXToY amountIn = binsPay bins isXToY amountIn :=
  fill_add_fill_sub (fun _ inside _ _ => curvePay_le (twoSided_of_mem_traded inside)) amountIn

/-- Both outputs are cut to a word. -/
theorem ofNat_curve_eq_iff (bins : List DlmmBin) (isXToY : Bool) (amountIn : ℕ) :
    UInt64.ofNat (fill (DlmmBin.depth isXToY) (curvePay isXToY) (tradedBins bins isXToY)
        amountIn) = UInt64.ofNat (binsPay bins isXToY amountIn) ↔
      2 ^ 64 ∣ shortfall bins isXToY amountIn := by
  rw [← curve_add_shortfall, ← UInt64.toNat_inj, UInt64.toNat_ofNat', UInt64.toNat_ofNat',
    Nat.dvd_iff_mod_eq_zero]
  omega

/-- An amount that is nothing, or no bins, cost nobody anything. -/
theorem pricedAlike_iff_dvd {arrays : List (List UInt8)}
    (distinct : DistinctIds (clientBins arrays)) (amountIn : UInt64) (isXToY : Bool) :
    PricedAlike arrays amountIn isXToY ↔
      2 ^ 64 ∣ shortfall (clientBins arrays) isXToY amountIn.toNat := by
  have total := curve_add_shortfall (clientBins arrays) isXToY amountIn.toNat
  rw [PricedAlike, out_without_fee, estimateDlmm_program distinct]
  split
  · next nothing =>
      rw [nothing, UInt64.toNat_zero, binsPay_zero] at total
      rw [nothing, UInt64.toNat_zero, binsPay_zero, Nat.eq_zero_of_add_eq_zero_left total]
      exact iff_of_true rfl (dvd_zero _)
  · split
    · next oneSided =>
        have perm := tradedBins_perm (clientBins arrays) isXToY
        rw [oneSided] at perm
        have unpaid : binsPay (clientBins arrays) isXToY amountIn.toNat = 0 := by
          rw [binsPay, perm.eq_nil, fill]
        rw [unpaid] at total
        rw [unpaid, Nat.eq_zero_of_add_eq_zero_left total]
        exact iff_of_true rfl (dvd_zero _)
    · rw [reported, Option.some_inj]
      exact ofNat_curve_eq_iff _ _ _

/-- Over arrays with distinct ids the two price a swap alike exactly when nothing is swapped,
when no bin holds both tokens, when the swap ends in its first bin at an amount for which
curve and price pay the same, or when what the program pays less is a multiple of what a word
can hold. -/
theorem pricedAlike_iff (arrays : List (List UInt8))
    (distinct : DistinctIds (clientBins arrays)) (amountIn : UInt64) (isXToY : Bool) :
    PricedAlike arrays amountIn isXToY ↔
      amountIn = 0 ∨ twoSidedBins (clientBins arrays) = [] ∨
        EndsAtPrice (clientBins arrays) isXToY amountIn.toNat ∨
        (0 < shortfall (clientBins arrays) isXToY amountIn.toNat ∧
          2 ^ 64 ∣ shortfall (clientBins arrays) isXToY amountIn.toNat) := by
  rw [pricedAlike_iff_dvd distinct]
  rcases Nat.eq_zero_or_pos (shortfall (clientBins arrays) isXToY amountIn.toNat) with
    zero | positive
  · rw [zero]
    apply iff_of_true (dvd_zero _)
    exact .inr ((shortfall_eq_zero_iff.mp zero).imp_right Or.inl)
  · constructor
    · intro multiple
      exact .inr (.inr (.inr ⟨positive, multiple⟩))
    · intro condition
      rcases condition with rfl | none | ends | ⟨_, multiple⟩
      · have total := curve_add_shortfall (clientBins arrays) isXToY (0 : UInt64).toNat
        rw [UInt64.toNat_zero, binsPay_zero] at total
        exact absurd (Nat.eq_zero_of_add_eq_zero_left total) positive.ne'
      · exact absurd (shortfall_eq_zero_iff.mpr (.inl none)) positive.ne'
      · exact absurd (shortfall_eq_zero_iff.mpr (.inr ends)) positive.ne'
      · exact multiple

/-- One unit into the upper bin of the later of two arrays, of seven hundred for nine hundred:
both pay one. -/
theorem pricedAlike_iff_sample : PricedAlike [sampleArrayData, sampleArrayBehindData] 1 true := by
  have parsed : clientBins [sampleArrayData, sampleArrayBehindData] =
      [⟨0, 1000, 2000⟩, ⟨70, 1000, 1500⟩, ⟨71, 700, 900⟩] := by decide +kernel
  have traded : tradedBins [⟨0, 1000, 2000⟩, ⟨70, 1000, 1500⟩, ⟨71, 700, 900⟩] true =
      [⟨71, 700, 900⟩, ⟨70, 1000, 1500⟩, ⟨0, 1000, 2000⟩] := by
    simp [tradedBins, twoSidedBins, activeBins, DlmmBin.TwoSided, List.mergeSort,
      List.MergeSort.Internal.splitInTwo]
  rw [pricedAlike_iff [sampleArrayData, sampleArrayBehindData] (by decide +kernel), parsed]
  right
  right
  left
  refine ⟨⟨71, 700, 900⟩, ?_, by decide, by decide⟩
  rw [traded]
  rfl

/-- Half a bin of a thousand for two thousand: the client is paid a thousand, the program
expects two thirds of it. -/
theorem not_pricedAlike_sample :
    ¬∀ (arrays : List (List UInt8)) (amountIn : UInt64) (isXToY : Bool),
      DistinctIds (clientBins arrays) → PricedAlike arrays amountIn isXToY := by
  intro all
  have alike := all [sampleArrayData] 500 true (by decide +kernel)
  revert alike
  decide +kernel

end

end AtomicArbitrage.Agreement

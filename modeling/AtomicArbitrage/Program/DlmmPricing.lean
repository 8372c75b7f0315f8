import AtomicArbitrage.Library.Ladder
import AtomicArbitrage.Library.Saturating
import AtomicArbitrage.Library.Word64
import AtomicArbitrage.Program.Constants
import AtomicArbitrage.Program.Pricing

/-!
# Pricing over bins in the program

The program decodes the bin arrays of a DLMM pool, keeps the bins that hold both tokens,
sorts them by their ids and walks them.  Within a bin it prices with a constant product.
-/

namespace AtomicArbitrage.Program

open Outcome

/-- A bin as the program keeps it: its id and its reserves on the two sides of the swap. -/
abbrev PricedBin := Int32 × UInt64 × UInt64

/-- `BIN_ARRAY_HEADER_SIZE`. -/
def binArrayHeaderSize : ℕ := 8 + 48

/-- `read_bin_amounts`. -/
def readBinAmounts (data : List UInt8) (baseOffset : ℕ) : Option (UInt64 × UInt64) :=
  if baseOffset + 16 > data.length then none
  else some (Word64.readAt data baseOffset, Word64.readAt data (baseOffset + 8))

/-- `arr_index.saturating_mul(70).saturating_add(bin_i as i64) as i32`. -/
def binId (arrIndex : ℤ) (binI : ℕ) : Int32 :=
  Int32.ofInt (Saturating.signed 64 (Saturating.signed 64 (arrIndex * 70) + binI))

/-- The loop over the bins of an array: `count` more from `binI` on, until one is cut off. -/
def collectBins (data : List UInt8) (arrIndex : ℤ) (stride : ℕ) (isXToY : Bool) :
    (count binI : ℕ) → List PricedBin
  | 0, _ => []
  | count + 1, binI =>
      let offset := binArrayHeaderSize + binI * stride
      match readBinAmounts data offset with
      | none => []
      | some (ax, ay) =>
          let (reserveIn, reserveOut) := if isXToY then (ax, ay) else (ay, ax)
          let rest := collectBins data arrIndex stride isXToY count (binI + 1)
          if reserveIn > 0 ∧ reserveOut > 0 then
            (binId arrIndex binI, reserveIn, reserveOut) :: rest
          else rest

/-- The bins of one array; an array that is too short or of another version has none. -/
def arrayBins (isXToY : Bool) (data : List UInt8) : List PricedBin :=
  if data.length < binArrayHeaderSize then []
  else
    let arrIndex := (Word64.readAt data 8).toInt64.toInt
    match data.getD 16 1 with
    | 1 => collectBins data arrIndex 128 isXToY 70 0
    | 2 => collectBins data arrIndex 144 isXToY 70 0
    | _ => []

/-- The order of the walk. -/
def walkedBefore (isXToY : Bool) (left right : PricedBin) : Bool :=
  if isXToY then right.1 ≤ left.1 else left.1 ≤ right.1

/-- An operation of the walk that has to stay in the width. -/
def inWidth (value : Option ℕ) : Exec ℕ := orFail value (arbErr arbPriceMathOverflow)

/-- The total with what a bin pays for what it takes. -/
def addOutput (totalOut ri ro taken : ℕ) : Exec ℕ := do
  let num ← inWidth (Checked.word 128 (ro * taken))
  let den ← inWidth (Checked.word 128 (ri + taken))
  inWidth (Checked.word 128 (totalOut + (Checked.div num den).getD 0))

/-- The loop over the sorted bins. -/
def priceBins : List PricedBin → (remainingIn totalOut : ℕ) → Exec ℕ
  | [], _, totalOut => pure totalOut
  | (_, reserveIn, reserveOut) :: bins, remainingIn, totalOut => do
      let ri := reserveIn.toNat
      let ro := reserveOut.toNat
      if remainingIn ≤ ri then
        addOutput totalOut ri ro remainingIn
      else
        let totalOut ← addOutput totalOut ri ro ri
        let remainingIn ← inWidth (Checked.sub remainingIn ri)
        priceBins bins remainingIn totalOut

/-- `estimate_dlmm_swap_output`, over the data of the bin arrays. -/
def estimateDlmmSwapOutput (binArrays : List (List UInt8)) (amountIn : UInt64)
    (isXToY : Bool) : Exec UInt64 := do
  if amountIn = 0 then
    return 0
  let bins := binArrays.flatMap (arrayBins isXToY)
  require (bins ≠ []) (arbErr arbEmptyBins)
  let totalOut ← priceBins (bins.mergeSort (walkedBefore isXToY)) amountIn.toNat 0
  return UInt64.ofNat totalOut

/-! ## The walk -/

namespace PricedBin

/-- What a bin takes. -/
def depth (bin : PricedBin) : ℕ := bin.2.1.toNat

/-- What a bin pays, as a pool of its own. -/
def pay (bin : PricedBin) (taken : ℕ) : ℕ :=
  ConstantProduct.output bin.2.1.toNat bin.2.2.toNat taken

theorem increasing_pay : Ladder.Increasing depth pay := by
  intro bin less more le within
  rcases Nat.eq_zero_or_pos bin.2.1.toNat with empty | held
  · have nothing : more = 0 := Nat.le_zero.mp (within.trans empty.le)
    have less0 : less = 0 := Nat.le_zero.mp (le.trans nothing.le)
    rw [less0, nothing]
  · exact ConstantProduct.output_mono held _ le

theorem pay_lt (bin : PricedBin) (taken : ℕ) : bin.pay taken < 2 ^ 64 :=
  (ConstantProduct.output_le _ _ _).trans_lt bin.2.2.toNat_lt

end PricedBin

theorem inWidth_word {value : ℕ} (small : value < 2 ^ 128) :
    inWidth (Checked.word 128 value) = .ok value := by
  rw [Checked.word_of_lt small]
  rfl

/-- What a bin pays is computed inside the width. -/
theorem addOutput_eq {ri ro : UInt64} {taken totalOut : ℕ} (held : 0 < ri)
    (within : taken ≤ ri.toNat) (room : totalOut + 2 ^ 64 ≤ 2 ^ 128) :
    addOutput totalOut ri.toNat ro.toNat taken =
      .ok (totalOut + ConstantProduct.output ri.toNat ro.toNat taken) := by
  have reserve : ri.toNat < 2 ^ 64 := ri.toNat_lt
  have positive : 0 < ri.toNat := UInt64.lt_iff_toNat_lt.mp held
  have product : ro.toNat * taken < 2 ^ 128 :=
    Checked.mul_lt ro.toNat_lt (within.trans_lt reserve)
  have sum : ri.toNat + taken < 2 ^ 128 := by omega
  have paid : ConstantProduct.output ri.toNat ro.toNat taken < 2 ^ 64 :=
    (ConstantProduct.output_le _ _ _).trans_lt ro.toNat_lt
  have total : totalOut + ConstantProduct.output ri.toNat ro.toNat taken < 2 ^ 128 := by omega
  rw [addOutput, inWidth_word product, ok_bind, inWidth_word sum, ok_bind,
    Checked.div_of_ne_zero (Nat.add_pos_left positive _).ne', Option.getD_some]
  exact inWidth_word total

/-- The walk over bins that hold something never leaves the width while their number leaves
it room, and pays what the ladder pays. -/
theorem priceBins_eq {bins : List PricedBin} (held : ∀ bin ∈ bins, 0 < bin.2.1)
    {remainingIn totalOut : ℕ} (room : totalOut + bins.length * 2 ^ 64 ≤ 2 ^ 128) :
    priceBins bins remainingIn totalOut =
      .ok (totalOut + Ladder.fill PricedBin.depth PricedBin.pay bins remainingIn) := by
  induction bins generalizing remainingIn totalOut with
  | nil => rfl
  | cons bin bins ih =>
      rcases bin with ⟨id, reserveIn, reserveOut⟩
      have positive : 0 < reserveIn := held _ List.mem_cons_self
      rw [List.length_cons] at room
      have here : totalOut + 2 ^ 64 ≤ 2 ^ 128 := by omega
      rcases Nat.lt_or_ge reserveIn.toNat remainingIn with exhausts | ends
      · have paid : addOutput totalOut reserveIn.toNat reserveOut.toNat reserveIn.toNat =
            .ok (totalOut + PricedBin.pay (id, reserveIn, reserveOut) reserveIn.toNat) :=
          addOutput_eq positive (Nat.le_refl _) here
        have one := PricedBin.pay_lt (id, reserveIn, reserveOut) reserveIn.toNat
        have left : inWidth (Checked.sub remainingIn reserveIn.toNat) =
            .ok (remainingIn - reserveIn.toNat) := by
          rw [Checked.sub_of_le exhausts.le]
          rfl
        have later (other) (inside : other ∈ bins) : 0 < other.2.1 :=
          held other (List.mem_cons_of_mem _ inside)
        have rest : priceBins bins (remainingIn - reserveIn.toNat)
            (totalOut + PricedBin.pay (id, reserveIn, reserveOut) reserveIn.toNat) =
            .ok (totalOut + PricedBin.pay (id, reserveIn, reserveOut) reserveIn.toNat +
              Ladder.fill PricedBin.depth PricedBin.pay bins (remainingIn - reserveIn.toNat)) :=
          ih later (by omega)
        rw [priceBins, if_neg (Nat.not_le.mpr exhausts), paid, ok_bind, left, ok_bind]
        rw [Ladder.fill_cons_of_lt (show PricedBin.depth (id, reserveIn, reserveOut) <
          remainingIn from exhausts), ← Nat.add_assoc]
        exact rest
      · rw [priceBins, if_pos ends, Ladder.fill_cons_of_le (show remainingIn ≤
          PricedBin.depth (id, reserveIn, reserveOut) from ends)]
        exact addOutput_eq positive ends here

end AtomicArbitrage.Program

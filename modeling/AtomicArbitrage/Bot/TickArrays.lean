import AtomicArbitrage.Bot.WhirlpoolDecode
import AtomicArbitrage.Client.TokenPrograms
import AtomicArbitrage.Library.Blocks
import AtomicArbitrage.Library.Signed32
import AtomicArbitrage.Program.Orchestrate

/-!
# Tick arrays of a Whirlpool leg

A swap crosses tick arrays from the one that holds the current tick on, downwards when it
goes from token A to token B and upwards otherwise.  The client derives three arrays upwards,
whichever leg they are for; the program sells A on the buy leg and B on the sell leg.
-/

namespace AtomicArbitrage.Bot

open Client Outcome
open Program (ascii)

/-! ## Derivation -/

/-- `WHIRLPOOL_TICK_ARRAY_SIZE`. -/
def whirlpoolTickArraySize : Int32 := 88

/-- `floor_div_i32`. -/
def floorDivI32 (a b : Int32) : Option Int32 := do
  let d ← Signed32.div a b
  let r ← Signed32.rem a b
  if r ≠ 0 ∧ a ^^^ b < 0 then Signed32.sub d 1 else pure d

/-- The ticks that an array spans: `tick_range`. -/
def tickRange (tickSpacing : UInt16) : Option Int32 :=
  Signed32.mul (.ofNat tickSpacing.toNat) whirlpoolTickArraySize

/-- `start_tick + i as i32 * tick_range`. -/
def arrayTick (startTick tickRange i : Int32) : Option Int32 := do
  Signed32.add startTick (← Signed32.mul i tickRange)

/-- The start ticks of the three arrays; nothing where an operation overflows. -/
def startTicks (tickCurrentIndex tickRange : Int32) : Option (List Int32) := do
  let startTick ← Signed32.mul (← floorDivI32 tickCurrentIndex tickRange) tickRange
  [0, 1, 2].mapM (arrayTick startTick tickRange)

section

variable (pda : FindProgramAddress)

/-- The address of a tick array. -/
def tickArrayPda (whirlpool : Pubkey) (tick : Int32) : Pubkey :=
  pda [ascii "tick_array", whirlpool.bytes, Word64.encode 4 (tick.toInt % 2 ^ 32).toNat]
    (.ofLiteral Client.whirlpoolProgram)

/-- `derive_whirlpool_tick_arrays`. -/
def deriveWhirlpoolTickArrays (whirlpool : Pubkey) (tickCurrentIndex : Int32)
    (tickSpacing : UInt16) : Option (List Pubkey) := do
  let range ← tickRange tickSpacing
  if range ≤ 0 then
    pure (List.replicate 3 (.ofLiteral Client.whirlpoolProgram))
  else
    let ticks ← startTicks tickCurrentIndex range
    pure (ticks.map (tickArrayPda pda whirlpool))

/-- `whirlpool_section_data`. -/
def whirlpoolSectionData (reserves : WhirlpoolReserves) : ClientResult WhirlpoolSectionData := do
  let pool ← parsePubkey reserves.lbPair
  let vaultA ← parsePubkey reserves.reserveXAddress
  let vaultB ← parsePubkey reserves.reserveYAddress
  let solIsX : Bool := reserves.tokenXMint = Client.nativeSolMint
  require (solIsX = true) (.bail ("Whirlpool pool " ++
    String.ofList (reserves.lbPair.toList.take 16) ++
    " has SOL as token_y — unsupported by current orchestrator"))
  let tickArrayVec ← orFail (deriveWhirlpoolTickArrays pda pool
    (.ofInt reserves.tickCurrentIndex) (.ofNat reserves.binStep)) .panic
  let tickArrays := (tickArrayVec.getD 0 pool, tickArrayVec.getD 1 pool, tickArrayVec.getD 2 pool)
  pure { pool, vaultA, vaultB, tickArrays, solIsX }

end

/-! ## What is derived -/

section

variable {a b tick range : Int32}

/-- The corrected quotient is rounded down. -/
theorem exists_floorDivI32 (positive : 0 < b.toInt) :
    ∃ quotient, floorDivI32 a b = some quotient ∧ quotient.toInt = a.toInt / b.toInt := by
  rcases Signed32.exists_div a positive with ⟨d, divided, dValue⟩
  rcases Signed32.exists_rem a positive with ⟨r, remained, rValue⟩
  have inexact : r ≠ 0 ↔ ¬b.toInt ∣ a.toInt := by
    rw [ne_eq, ← Int32.toInt_inj, rValue, Int32.toInt_zero, Int.dvd_iff_tmod_eq_zero]
  have negative : a ^^^ b < 0 ↔ a.toInt < 0 := by
    rw [Signed32.xor_neg_iff]
    omega
  have truncated := Int.tdiv_eq_ediv (a := a.toInt) (b := b.toInt)
  rw [Int.sign_eq_one_of_pos positive] at truncated
  simp only [floorDivI32, divided, remained, Option.bind_eq_bind, Option.bind_some, inexact,
    negative]
  by_cases exact : 0 ≤ a.toInt ∨ b.toInt ∣ a.toInt
  · rw [if_pos exact, Int.add_zero] at truncated
    rw [if_neg (by omega)]
    exact ⟨d, rfl, dValue.trans truncated⟩
  · rw [if_neg exact] at truncated
    rw [if_pos (by omega)]
    have below : a.toInt < 0 := by omega
    have low := a.le_toInt
    have smaller : a.toInt ≤ a.toInt / b.toInt :=
      Int.le_ediv_of_mul_le positive (by nlinarith)
    have high := Int.ediv_neg_of_neg_of_pos below positive
    rcases Signed32.exists_word (d.toInt - 1) (by omega) (by omega) with
      ⟨quotient, lowered, value⟩
    exact ⟨quotient, lowered, by omega⟩

/-- The range of every spacing is a word. -/
theorem exists_tickRange (tickSpacing : UInt16) :
    ∃ range, tickRange tickSpacing = some range ∧ range.toInt = 88 * tickSpacing.toNat := by
  have small := tickSpacing.toNat_lt
  have spacing : (Int32.ofNat tickSpacing.toNat).toInt = tickSpacing.toNat :=
    Int32.toInt_ofNat_of_lt (by omega)
  have exact : (Int32.ofNat tickSpacing.toNat).toInt * whirlpoolTickArraySize.toInt =
      88 * tickSpacing.toNat := by
    rw [spacing, mul_comm]
    rfl
  rw [tickRange, Signed32.mul, exact]
  exact Signed32.exists_word _ (by omega) (by omega)

/-- The ticks that Orca allows. -/
def InTickRange (tick : Int32) : Prop := -443636 ≤ tick.toInt ∧ tick.toInt ≤ 443636

theorem exists_arrayTick (start i : Int32) (few : 0 ≤ i.toInt ∧ i.toInt ≤ 2)
    (low : -2 ^ 30 ≤ start.toInt) (high : start.toInt < 2 ^ 30) (positive : 0 < range.toInt)
    (wide : range.toInt < 2 ^ 29) :
    ∃ shifted, arrayTick start range i = some shifted ∧
      shifted.toInt = start.toInt + i.toInt * range.toInt := by
  have nonneg : 0 ≤ i.toInt * range.toInt := Int.mul_nonneg few.1 positive.le
  have bound : i.toInt * range.toInt ≤ 2 * range.toInt :=
    Int.mul_le_mul_of_nonneg_right few.2 positive.le
  rcases Signed32.exists_word (i.toInt * range.toInt) (by omega) (by omega) with
    ⟨shift, multiplied, shiftValue⟩
  rcases Signed32.exists_word (start.toInt + shift.toInt) (by omega) (by omega) with
    ⟨shifted, added, shiftedValue⟩
  refine ⟨shifted, ?_, by rw [shiftedValue, shiftValue]⟩
  rw [arrayTick, Signed32.mul, multiplied, Option.bind_eq_bind, Option.bind_some]
  exact added

/-- Within Orca's range of ticks nothing overflows, and the arrays go upwards from the one
that holds the tick. -/
theorem exists_startTicks {tickSpacing : UInt16} (allowed : InTickRange tick)
    (spaced : 1 ≤ tickSpacing.toNat) (width : range.toInt = 88 * tickSpacing.toNat) :
    ∃ first second third, startTicks tick range = some [first, second, third] ∧
      Blocks.Holds range.toInt (tick.toInt / range.toInt) tick.toInt ∧
      first.toInt = range.toInt * (tick.toInt / range.toInt) ∧
      second.toInt = first.toInt + range.toInt ∧ third.toInt = second.toInt + range.toInt := by
  have small := tickSpacing.toNat_lt
  have positive : 0 < range.toInt := by omega
  have holds : Blocks.Holds range.toInt (tick.toInt / range.toInt) tick.toInt :=
    (Blocks.holds_iff positive).mpr rfl
  have around := holds
  rw [Blocks.Holds] at around
  rw [InTickRange] at allowed
  rcases exists_floorDivI32 (a := tick) positive with ⟨quotient, divided, value⟩
  have product : quotient.toInt * range.toInt = range.toInt * (tick.toInt / range.toInt) := by
    rw [value, mul_comm]
  rcases Signed32.exists_word (quotient.toInt * range.toInt) (by omega) (by omega) with
    ⟨start, multiplied, startValue⟩
  rw [product] at startValue
  rcases exists_arrayTick start 0 (by decide) (by omega) (by omega) positive
    (by omega) with ⟨first, firstAt, firstValue⟩
  rcases exists_arrayTick start 1 (by decide) (by omega) (by omega) positive
    (by omega) with ⟨second, secondAt, secondValue⟩
  rcases exists_arrayTick start 2 (by decide) (by omega) (by omega) positive
    (by omega) with ⟨third, thirdAt, thirdValue⟩
  have zero : (0 : Int32).toInt = 0 := rfl
  have one : (1 : Int32).toInt = 1 := rfl
  have two : (2 : Int32).toInt = 2 := rfl
  refine ⟨first, second, third, ?_, holds, ?_, ?_, ?_⟩
  · rw [startTicks, divided, Option.bind_eq_bind, Option.bind_some, Signed32.mul, multiplied,
      Option.bind_some, List.mapM_cons, firstAt, List.mapM_cons, secondAt,
      List.mapM_cons, thirdAt, List.mapM_nil]
    rfl
  · rw [firstValue, zero]
    omega
  · rw [secondValue, firstValue, zero, one]
    omega
  · rw [thirdValue, secondValue, one, two]
    omega

/-- The arrays are those of the start ticks, unless the spacing is zero. -/
theorem deriveWhirlpoolTickArrays_eq (pda : FindProgramAddress) (whirlpool : Pubkey)
    {tickSpacing : UInt16} (ranged : tickRange tickSpacing = some range)
    (positive : 0 < range.toInt) :
    deriveWhirlpoolTickArrays pda whirlpool tick tickSpacing =
      (startTicks tick range).map (List.map (tickArrayPda pda whirlpool)) := by
  have above : ¬range ≤ 0 := by
    rw [Int32.le_iff_toInt_le, Int32.toInt_zero]
    omega
  rw [deriveWhirlpoolTickArrays, ranged, Option.bind_eq_bind, Option.bind_some, if_neg above,
    Option.bind_eq_bind, Option.map_eq_bind]
  rfl

end

/-! ## The direction of a leg -/

section

variable {leg : Leg}

/-- The flag `a_to_b` of a leg. -/
def aToB : Leg → Bool
  | .buy => true
  | .sell => false

/-- The instruction that the program invokes for a Whirlpool leg. -/
def whirlpoolCpi (leg : Leg) (accounts : List AccountInfo) (base remaining : ℕ)
    (amountIn minOut : UInt64) : Exec Instruction :=
  match leg with
  | .buy => Program.Orchestrate.buyCpi accounts .whirlpool base remaining amountIn minOut
  | .sell => Program.Orchestrate.sellCpi accounts .whirlpool base remaining amountIn minOut

/-- That is the flag which the program passes on. -/
theorem whirlpoolCpi_data {accounts : List AccountInfo} {base remaining : ℕ}
    {amountIn minOut : UInt64} {cpi : Instruction}
    (built : whirlpoolCpi leg accounts base remaining amountIn minOut = .ok cpi) :
    cpi.data = Program.Cpi.Whirlpool.swapData amountIn minOut (aToB leg) := by
  cases leg with
  | buy =>
      exact Program.Cpi.Whirlpool.buildSwap_data
        (base + Program.DexWhirlpool.whirlpoolTokenProgOff) built
  | sell =>
      exact Program.Cpi.Whirlpool.buildSwap_data
        (base + Program.DexWhirlpool.whirlpoolTokenProgOff) built

/-- Three arrays from the one that holds the tick on, in the direction in which the price
moves: from A to B the tick falls. -/
structure CoversSwap (aToB : Bool) (range tick : ℤ) (starts : List ℤ) : Prop where
  first : ∃ start, starts[0]? = some start ∧ range ∣ start ∧ start ≤ tick ∧ tick < start + range
  three : starts.length = 3
  consecutive : starts.IsChain fun start next =>
    next = if aToB then start - range else start + range

/-- The arrays of a leg are derived without overflow, and cover its swap. -/
structure ArraysCover (leg : Leg) (tick : Int32) (tickSpacing : UInt16) (range : Int32)
    (starts : List Int32) : Prop where
  ranged : tickRange tickSpacing = some range
  spans : range.toInt = 88 * tickSpacing.toNat
  started : startTicks tick range = some starts
  derived : ∀ pda whirlpool, deriveWhirlpoolTickArrays pda whirlpool tick tickSpacing =
    some (starts.map (tickArrayPda pda whirlpool))
  covers : CoversSwap (aToB leg) range.toInt tick.toInt (starts.map Int32.toInt)

/-- Arrays that go upwards do not cover a swap that goes downwards. -/
theorem ArraysCover.sells {tick range : Int32} {tickSpacing : UInt16} {starts : List Int32}
    (cover : ArraysCover leg tick tickSpacing range starts) (allowed : InTickRange tick)
    (spaced : 1 ≤ tickSpacing.toNat) : leg = .sell := by
  have spans := cover.spans
  rcases exists_startTicks allowed spaced spans with
    ⟨first, second, third, started, _, _, secondValue, _⟩
  obtain rfl := Option.some_inj.mp (started.symm.trans cover.started)
  have next : second.toInt =
      if aToB leg then first.toInt - range.toInt else first.toInt + range.toInt :=
    (List.isChain_cons_cons.mp cover.covers.consecutive).1
  cases leg with
  | buy =>
      rw [aToB, if_pos rfl] at next
      omega
  | sell => rfl

/-- The arrays of a leg cover its swap exactly for the sell leg. -/
theorem arraysCover_iff (leg : Leg) (tick : Int32) (tickSpacing : UInt16)
    (allowed : InTickRange tick) (spaced : 1 ≤ tickSpacing.toNat) :
    (∃ range starts, ArraysCover leg tick tickSpacing range starts) ↔ leg = .sell := by
  constructor
  · intro found
    rcases found with ⟨range, starts, cover⟩
    exact cover.sells allowed spaced
  · rintro rfl
    rcases exists_tickRange tickSpacing with ⟨range, ranged, spans⟩
    have positive : 0 < range.toInt := by omega
    rcases exists_startTicks allowed spaced spans with
      ⟨first, second, third, started, holds, firstValue, secondValue, thirdValue⟩
    rw [Blocks.Holds] at holds
    exact ⟨range, _, {
      ranged
      spans
      started
      derived := fun pda whirlpool => by
        rw [deriveWhirlpoolTickArrays_eq pda whirlpool ranged positive, started, Option.map_some]
      covers := {
        first := ⟨first.toInt, rfl, firstValue ▸ Int.dvd_mul_right _ _, by omega, by omega⟩
        three := rfl
        consecutive := by
          simp only [List.map_cons, List.map_nil, List.isChain_cons_cons, List.isChain_singleton,
            and_true]
          exact ⟨secondValue, thirdValue⟩ } }⟩

/-- A tick just below zero, in the spacing of the usual pools. -/
theorem arraysCover_sell_sample : ∃ range starts, ArraysCover .sell (-1) 64 range starts :=
  (arraysCover_iff .sell (-1) 64 ⟨by decide, by decide⟩ (by decide)).mpr rfl

/-- Buying at tick zero, the second array is above the first. -/
theorem not_arraysCover_buy :
    ¬∀ (leg : Leg) (tick : Int32) (tickSpacing : UInt16), InTickRange tick →
      1 ≤ tickSpacing.toNat → ∃ range starts, ArraysCover leg tick tickSpacing range starts := by
  intro all
  have allowed : InTickRange 0 := ⟨by decide, by decide⟩
  rcases all .buy 0 64 allowed (by decide) with ⟨range, starts, cover⟩
  cases cover.sells allowed (by decide)

end

/-- The section of a leg has the derived arrays, whichever leg it is for. -/
theorem whirlpoolSectionData_tickArrays {pda : FindProgramAddress} {reserves : WhirlpoolReserves}
    {d : WhirlpoolSectionData} (resolved : whirlpoolSectionData pda reserves = .ok d)
    {range first second third : Int32}
    (ranged : tickRange (.ofNat reserves.binStep) = some range) (positive : 0 < range.toInt)
    (started : startTicks (.ofInt reserves.tickCurrentIndex) range =
      some [first, second, third]) :
    d.tickArrays = (tickArrayPda pda d.pool first, tickArrayPda pda d.pool second,
      tickArrayPda pda d.pool third) := by
  simp only [whirlpoolSectionData, bind_eq_ok, orFail_eq_ok, pure_eq_ok] at resolved
  rcases resolved with ⟨pool, _, _, _, _, _, _, _, ticks, derived, rfl⟩
  rw [deriveWhirlpoolTickArrays_eq pda pool ranged positive, started, Option.map_some] at derived
  obtain rfl := Option.some_inj.mp derived
  rfl

end AtomicArbitrage.Bot

import AtomicArbitrage.Bot.WrapGuard

/-!
# The amount of a wrap

A call of the wrap guard reads two balances, of the WSOL account and of the wallet.  The
first is a string of digits in base units.  It is parsed and scaled as if it were an amount
of SOL, so that each of its lamports counts as a billion.
-/

namespace AtomicArbitrage.Bot

open WrapGuard

/-- `parse::<f64>` on a string of digits, which the amount of a token account is. -/
def parseF64 (amount : String) : Option ℚ :=
  let digits := amount.toList
  if digits ≠ [] ∧ digits.all Char.isDigit then some (Nat.ofDigitChars 10 digits 0 : ℕ) else none

/-- The balance that `ensure_wsol_balance` compares. -/
def wsolLamports (amount : String) : ℕ :=
  let wsolBalance := (parseF64 amount).getD 0
  solToLamports wsolBalance

/-- What `ensure_wsol_balance` works out from both answers: nothing where the WSOL is enough,
otherwise the amount to wrap. -/
def wrapAmount (maxSingleInvestmentSol : ℚ) (investmentLamports : ℕ) (amount : String)
    (nativeBalance : ℕ) : Option ℕ :=
  let required := required maxSingleInvestmentSol investmentLamports
  if wsolLamports amount ≥ required then none
  else
    let deficit := required - wsolLamports amount
    some (min deficit (nativeBalance - 100000))

section

variable (maxSingleInvestmentSol : ℚ) (investmentLamports nativeBalance : ℕ)

/-- The guard wraps this amount, where it is worth it and no other wrap is in flight. -/
theorem final_balances {s : WrapGuard} (waits : s.call = .tokenBalance investmentLamports)
    (free : s.inFlight = false) (amount : String) :
    Runs.final (step maxSingleInvestmentSol) s
        [.tokenBalance (some (parseF64 amount)), .nativeBalance (some nativeBalance)] =
      match wrapAmount maxSingleInvestmentSol investmentLamports amount nativeBalance with
      | none => s.returned
      | some wrap =>
          if wrap < 50000000 then s.returned
          else { s with inFlight := true, call := .latestBlockhash wrap } := by
  have compared : s.onTokenBalance maxSingleInvestmentSol investmentLamports
      (some (parseF64 amount)) =
        if wsolLamports amount ≥ required maxSingleInvestmentSol investmentLamports then
          s.returned
        else
          { s with
            call := .nativeBalance
              (required maxSingleInvestmentSol investmentLamports - wsolLamports amount) } :=
    rfl
  simp only [Runs.final_cons, Runs.final_nil, step, waits, compared, wrapAmount]
  by_cases enough :
      wsolLamports amount ≥ required maxSingleInvestmentSol investmentLamports
  · simp only [if_pos enough, returned]
  · simp only [if_neg enough, onNativeBalance, free, Option.getD_some, Bool.false_eq_true,
      if_false]
    split
    · simp only [returned, free]
    · rfl

end

/-! ## Amounts in base units -/

theorem parseF64_repr (raw : ℕ) : parseF64 raw.repr = some (raw : ℚ) := by
  have digits : Nat.toDigits 10 raw ≠ [] ∧ (Nat.toDigits 10 raw).all Char.isDigit := by
    constructor
    · exact Nat.toDigits_ne_nil
    · rw [List.all_eq_true]
      intro digit member
      exact Nat.isDigit_of_mem_toDigits (by decide) (by decide) member
  simp only [parseF64, Nat.toList_repr]
  rw [if_pos digits, Nat.ofDigitChars_ten_toDigits]

/-- Whole SOL, scaled and saturated. -/
theorem solToLamports_natCast (sol : ℕ) :
    solToLamports (sol : ℚ) = min (sol * 1000000000) (2 ^ 64 - 1) := by
  have scaled : (sol : ℚ) * 1000000000 = ((sol * 1000000000 : ℕ) : ℚ) := by push_cast; rfl
  simp only [solToLamports, scaled]
  rw [if_neg (not_lt.mpr (Nat.cast_nonneg _))]
  split
  · next large =>
      have above : 2 ^ 64 < sol * 1000000000 := by exact_mod_cast large
      rw [min_eq_right (by omega)]
  · rw [asU64, Saturating.cast, Nat.floor_natCast]

/-- A raw amount counts a billion times. -/
theorem wsolLamports_repr (raw : ℕ) :
    wsolLamports raw.repr = min (raw * 1000000000) (2 ^ 64 - 1) := by
  rw [wsolLamports, parseF64_repr, Option.getD_some, solToLamports_natCast]

/-- The `buffer` of the requirement. -/
def wrapBuffer (maxSingleInvestmentSol : ℚ) : ℕ := solToLamports (maxSingleInvestmentSol * 2)

section

variable {maxSingleInvestmentSol : ℚ} {investmentLamports raw nativeBalance : ℕ}

theorem enough_iff :
    required maxSingleInvestmentSol investmentLamports ≤ wsolLamports raw.repr ↔
      required maxSingleInvestmentSol investmentLamports ≤ raw * 1000000000 := by
  rw [wsolLamports_repr, le_min_iff, and_iff_left]
  exact min_le_right _ _

end

/-! ## Like units -/

/-- The comparison is one of lamports, and so is the amount to wrap. -/
structure LikeUnits (maxSingleInvestmentSol : ℚ) (investmentLamports raw nativeBalance : ℕ) :
    Prop where
  /-- No wrap is needed where the account holds the investment and the buffer. -/
  enough :
    wrapAmount maxSingleInvestmentSol investmentLamports raw.repr nativeBalance = none ↔
      investmentLamports + wrapBuffer maxSingleInvestmentSol ≤ raw
  /-- Otherwise what is missing is wrapped, as far as the wallet goes. -/
  missing : ∀ wrap,
    wrapAmount maxSingleInvestmentSol investmentLamports raw.repr nativeBalance = some wrap →
      wrap = min (required maxSingleInvestmentSol investmentLamports - raw)
        (nativeBalance - 100000)
  /-- Neither difference underflows. -/
  covered : ∀ wrap,
    wrapAmount maxSingleInvestmentSol investmentLamports raw.repr nativeBalance = some wrap →
      wsolLamports raw.repr ≤ required maxSingleInvestmentSol investmentLamports ∧
        raw ≤ required maxSingleInvestmentSol investmentLamports
  /-- The wallet keeps its reserve. -/
  reserve : ∀ wrap,
    wrapAmount maxSingleInvestmentSol investmentLamports raw.repr nativeBalance = some wrap →
      wrap = 0 ∨ wrap + 100000 ≤ nativeBalance

/-- The account holds enough, or so little that a billion times the amount is not enough
either.  The amount to wrap is then right for an empty account, and for a wallet that cannot
pay for what a billion times the amount leaves missing. -/
def ScaleHidden (maxSingleInvestmentSol : ℚ) (investmentLamports raw nativeBalance : ℕ) :
    Prop :=
  investmentLamports + wrapBuffer maxSingleInvestmentSol ≤ raw ∨
    raw * 1000000000 < required maxSingleInvestmentSol investmentLamports ∧
      (raw = 0 ∨ nativeBalance - 100000 ≤
        required maxSingleInvestmentSol investmentLamports - raw * 1000000000)

instance (maxSingleInvestmentSol : ℚ) (investmentLamports raw nativeBalance : ℕ) :
    Decidable (ScaleHidden maxSingleInvestmentSol investmentLamports raw nativeBalance) :=
  inferInstanceAs (Decidable (_ ∨ _))

section

variable {maxSingleInvestmentSol : ℚ} {investmentLamports raw nativeBalance : ℕ}

theorem wrapAmount_eq_none_iff :
    wrapAmount maxSingleInvestmentSol investmentLamports raw.repr nativeBalance = none ↔
      required maxSingleInvestmentSol investmentLamports ≤ raw * 1000000000 := by
  rw [← enough_iff, wrapAmount]
  split
  · next enough => exact iff_of_true rfl enough
  · next missing =>
      apply iff_of_false _ missing
      intro same
      cases same

/-- What is missing once the account is short. -/
theorem wrapAmount_of_short
    (short : raw * 1000000000 < required maxSingleInvestmentSol investmentLamports) :
    wrapAmount maxSingleInvestmentSol investmentLamports raw.repr nativeBalance =
      some (min (required maxSingleInvestmentSol investmentLamports - raw * 1000000000)
        (nativeBalance - 100000)) := by
  have bounded : required maxSingleInvestmentSol investmentLamports ≤ 2 ^ 64 - 1 :=
    min_le_right _ _
  have unsaturated : wsolLamports raw.repr = raw * 1000000000 := by
    rw [wsolLamports_repr, min_eq_left (short.le.trans bounded)]
  rw [wrapAmount, unsaturated, if_neg (not_le.mpr short)]

theorem likeUnits_of_enough
    (held : investmentLamports + wrapBuffer maxSingleInvestmentSol ≤ raw) :
    LikeUnits maxSingleInvestmentSol investmentLamports raw nativeBalance := by
  have scaled : required maxSingleInvestmentSol investmentLamports ≤ raw * 1000000000 :=
    calc required maxSingleInvestmentSol investmentLamports
      _ ≤ investmentLamports + wrapBuffer maxSingleInvestmentSol := min_le_left _ _
      _ ≤ raw := held
      _ ≤ raw * 1000000000 := Nat.le_mul_of_pos_right raw (by decide)
  have none : wrapAmount maxSingleInvestmentSol investmentLamports raw.repr nativeBalance =
      none := wrapAmount_eq_none_iff.mpr scaled
  constructor
  · exact iff_of_true none held
  all_goals
    intro wrap wraps
    rw [none] at wraps
    cases wraps

/-- The two minima agree where the wallet is the limit in both. -/
theorem min_scaled_eq_iff {required limit : ℕ} (short : raw * 1000000000 < required) :
    min (required - raw * 1000000000) limit = min (required - raw) limit ↔
      raw = 0 ∨ limit ≤ required - raw * 1000000000 := by
  omega

theorem likeUnits_of_short
    (short : raw * 1000000000 < required maxSingleInvestmentSol investmentLamports) :
    LikeUnits maxSingleInvestmentSol investmentLamports raw nativeBalance ↔
      raw = 0 ∨ nativeBalance - 100000 ≤
        required maxSingleInvestmentSol investmentLamports - raw * 1000000000 := by
  have amount : wrapAmount maxSingleInvestmentSol investmentLamports raw.repr nativeBalance =
      some (min (required maxSingleInvestmentSol investmentLamports - raw * 1000000000)
        (nativeBalance - 100000)) := wrapAmount_of_short short
  rw [← min_scaled_eq_iff short]
  constructor
  · intro like
    exact like.missing _ amount
  · intro agree
    have below : raw < required maxSingleInvestmentSol investmentLamports :=
      (Nat.le_mul_of_pos_right raw (by decide)).trans_lt short
    constructor
    · apply iff_of_false
      · rw [amount]
        intro same
        cases same
      · exact not_le.mpr (below.trans_le (min_le_left _ _))
    all_goals
      intro wrap wraps
      rw [amount] at wraps
      cases wraps
    · exact agree
    · rw [wsolLamports_repr]
      exact ⟨(min_le_left _ _).trans short.le, below.le⟩
    · have kept := min_le_right
        (required maxSingleInvestmentSol investmentLamports - raw * 1000000000)
        (nativeBalance - 100000)
      omega

/-- A call compares like units exactly where the scale of the amount does not show. -/
theorem likeUnits_iff (maxSingleInvestmentSol : ℚ)
    (investmentLamports raw nativeBalance : ℕ) :
    LikeUnits maxSingleInvestmentSol investmentLamports raw nativeBalance ↔
      ScaleHidden maxSingleInvestmentSol investmentLamports raw nativeBalance := by
  by_cases held : investmentLamports + wrapBuffer maxSingleInvestmentSol ≤ raw
  · exact iff_of_true (likeUnits_of_enough held) (.inl held)
  · rw [ScaleHidden, or_iff_right held]
    by_cases short : raw * 1000000000 < required maxSingleInvestmentSol investmentLamports
    · rw [and_iff_right short]
      exact likeUnits_of_short short
    · apply iff_of_false
      · intro like
        exact held (like.enough.mp (wrapAmount_eq_none_iff.mpr (not_lt.mp short)))
      · intro hidden
        exact short hidden.1

/-- One WSOL is taken for enough where a trade of two SOL and a buffer of two require four. -/
theorem not_likeUnits_sample :
    ¬∀ (maxSingleInvestmentSol : ℚ) (investmentLamports raw nativeBalance : ℕ),
      LikeUnits maxSingleInvestmentSol investmentLamports raw nativeBalance := by
  intro all
  have like := all 1 2000000000 1000000000 10000000000
  have enough : wrapAmount 1 2000000000 (1000000000 : ℕ).repr 10000000000 = none := by
    rw [wrapAmount_eq_none_iff]
    decide +kernel
  exact absurd (like.enough.mp enough) (by decide +kernel)

end

end AtomicArbitrage.Bot

import AtomicArbitrage.Program.MachineRefinement

/-!
# No panic

No index of the program is out of range.  Each handler compares the account count with the
end of its second section before it reads the first account of a section, and no validator
or builder reads behind the section it is given.
-/

namespace AtomicArbitrage.Program

open Outcome Word64

variable {accounts : List AccountInfo} {data : List UInt8} {ledger : Ledger}
  {pda : FindProgramAddress} {base remaining : ℕ}

/-! ## Reads and guards -/

theorem avoids_account {index : ℕ} {reason : Abort} (inside : index < accounts.length) :
    Avoids reason (account accounts index) :=
  avoids_of_eq_ok (Cpi.account_of_lt inside)

theorem avoids_guard {condition : Prop} [Decidable condition] (reason : ProgramError) :
    Avoids Abort.panic (require condition (.error reason)) :=
  avoids_require Abort.noConfusion

theorem avoids_expectKey {index : ℕ} {key : Pubkey} {reason : ProgramError}
    (inside : index < accounts.length) :
    Avoids .panic (expectKey accounts index key (.error reason)) :=
  (avoids_account inside).bind fun _ _ => avoids_guard reason

theorem avoids_expectOwner {index : ℕ} {owner : Pubkey} {reason : ProgramError}
    (inside : index < accounts.length) :
    Avoids .panic (expectOwner accounts index owner (.error reason)) :=
  (avoids_account inside).bind fun _ _ => avoids_guard reason

/-! ## Sections -/

theorem Orchestrate.avoids_validateDexSection {kind : DexKind}
    (inside : base + kind.fixedLen ≤ accounts.length) :
    Avoids .panic (validateDexSection pda accounts kind base remaining) := by
  cases kind with
  | pumpSwap =>
      simp only [DexKind.fixedLen, DexPumpSwap.pumpSwapBuyFixedLen, pumpBuyFixedLen] at inside
      simp (disch := first | decide | (simp; omega)) only [validateDexSection,
        DexPumpSwap.validateSection, arbErr, avoids_bind_iff, avoids_expectKey, implies_true,
        and_self]
  | dlmm =>
      simp only [DexKind.fixedLen, DexDlmm.dlmmFixedLen] at inside
      simp (disch := first | decide | (simp; omega)) only [validateDexSection,
        DexDlmm.validateSection, arbErr, avoids_bind_iff, avoids_guard, avoids_expectKey,
        avoids_expectOwner, avoids_account, implies_true, and_self]
  | cpmm =>
      simp only [DexKind.fixedLen, DexCpmm.cpmmFixedLen] at inside
      simp (disch := omega) only [validateDexSection,
        DexCpmm.validateSection, arbErr, avoids_bind_iff, avoids_guard, avoids_expectKey,
        avoids_expectOwner, avoids_account, implies_true, and_self]
  | whirlpool =>
      simp only [DexKind.fixedLen, DexWhirlpool.whirlpoolFixedLen] at inside
      simp (disch := omega) only [validateDexSection,
        DexWhirlpool.validateSection, arbErr, avoids_bind_iff, avoids_guard, avoids_expectKey,
        avoids_expectOwner, avoids_account, implies_true, and_self]

/-! ## Checks -/

theorem Orchestrate.avoids_plan (accounts : List AccountInfo) (data : List UInt8) :
    Avoids .panic (plan accounts data) := by
  have unknown {kind : Option DexKind} : Avoids .panic (orFail kind (arbErr arbUnknownDexPair)) :=
    avoids_orFail Abort.noConfusion
  simp only [plan, parse, arbErr, avoids_bind_iff, avoids_guard, avoids_pure, implies_true,
    and_self, true_and]
  intro _ _ _ _
  simp only [arbErr] at unknown
  simp only [unknown, implies_true, and_self]

/-- The declared sections lie inside of the account list. -/
theorem Orchestrate.plan_inside {plan : Plan} (planned : Orchestrate.plan accounts data = .ok plan) :
    3 ≤ accounts.length ∧
      plan.buyBase + plan.buyKind.fixedLen + plan.route.buyRemaining ≤ accounts.length ∧
      plan.sellBase + plan.sellKind.fixedLen + plan.route.sellRemaining ≤ accounts.length := by
  rcases plan_eq_ok.mp planned with ⟨_, _, _, _, buyBase, _, sellBase, _, _, inside⟩
  omega

theorem Orchestrate.avoids_check : Avoids .panic (check pda accounts data) := by
  apply (avoids_plan accounts data).bind
  intro plan planned
  rcases plan_inside planned with ⟨shared, buyInside, sellInside⟩
  apply (avoids_account (by simp; omega)).bind
  intro user _
  apply (avoids_guard _).bind
  intro _ _
  apply (avoids_validateDexSection (by omega)).bind
  intro _ _
  apply (avoids_validateDexSection (by omega)).bind
  intro _ _
  exact avoids_pure plan

theorem LegacyData.avoids_parse (data : List UInt8) : Avoids .panic (parse data) :=
  (avoids_guard _).bind fun _ _ => avoids_pure _

theorem LegacyData.avoids_validate (route : LegacyData) : Avoids .panic route.validate :=
  (avoids_guard _).bind fun _ _ => avoids_guard _

theorem RoutePumpToDlmm.avoids_check : Avoids .panic (check pda accounts data) := by
  apply (LegacyData.avoids_parse data).bind
  intro route _
  apply (LegacyData.avoids_validate route).bind
  intro _ _
  apply (avoids_guard _).bind
  intro _ counted
  simp only [require_eq_ok, sharedFixedLen, pumpBuyFixedLen, dlmmFixedLen, not_lt] at counted
  simp (disch := simp; omega) only [arbErr, avoids_bind_iff, avoids_guard, avoids_expectKey,
    avoids_account, avoids_pure, implies_true, and_self]

theorem RouteDlmmToPump.avoids_check : Avoids .panic (check pda accounts data) := by
  apply (LegacyData.avoids_parse data).bind
  intro route _
  apply (LegacyData.avoids_validate route).bind
  intro _ _
  apply (avoids_guard _).bind
  intro _ counted
  simp only [require_eq_ok, sharedFixedLen, pumpSellFixedLen, dlmmFixedLen, not_lt] at counted
  simp (disch := simp; omega) only [arbErr, avoids_bind_iff, avoids_guard, avoids_expectKey,
    avoids_account, avoids_pure, implies_true, and_self]

/-! ## CPI builders

A builder that reads inside of the list does not fail at all. -/

namespace Cpi

variable {reason : Abort}

theorem avoids_acct {index : ℕ} {writable : Bool} (inside : index < accounts.length) :
    Avoids reason (acct accounts index writable) :=
  (avoids_account inside).bind fun _ _ => avoids_pure _

theorem avoids_metas {slots : List (ℕ × Bool)}
    (inside : ∀ slot ∈ slots, slot.1 < accounts.length) :
    Avoids reason (metas accounts slots) :=
  avoids_mapM fun slot member => avoids_acct (inside slot member)

theorem avoids_trailingMetas {start count : ℕ} {writable : AccountInfo → Bool}
    (inside : start + count ≤ accounts.length) :
    Avoids reason (trailingMetas accounts start count writable) := by
  apply avoids_mapM
  intro i member
  have below := List.mem_range.mp member
  exact (avoids_account (by omega)).bind fun _ _ => avoids_pure _

/-- The section and the indices that the caller adds are inside of the list. -/
theorem Dlmm.avoids_buildSwap2 {amountIn : UInt64}
    {xMint yMint xProgram yProgram user tokenIn tokenOut bins : ℕ}
    (within : base + 9 + bins ≤ accounts.length)
    (inside : ∀ index ∈ [xMint, yMint, xProgram, yProgram, user, tokenIn, tokenOut],
      index < accounts.length) :
    Avoids reason (buildSwap2 accounts base amountIn xMint yMint xProgram yProgram user
      tokenIn tokenOut bins) := by
  have fixed : Avoids reason (metas accounts (swap2Slots base xMint yMint xProgram yProgram
      user tokenIn tokenOut)) := by
    apply avoids_metas
    simp only [List.forall_mem_cons] at inside
    simp only [swap2Slots, List.forall_mem_cons]
    simp
    omega
  apply fixed.bind
  intro _ _
  apply (avoids_trailingMetas within).bind
  intro _ _
  exact (avoids_account (by simp; omega)).bind fun _ _ => avoids_pure _

theorem PumpSwap.avoids_buildPumpSwap {slots : List (ℕ × Bool)} {fixedLen programRel : ℕ}
    (within : base + fixedLen + remaining ≤ accounts.length)
    (inside : ∀ slot ∈ slots, slot.1 < fixedLen) (program : programRel < fixedLen) :
    Avoids reason (buildPumpSwap accounts base remaining slots fixedLen programRel data
      none) := by
  have fixed : Avoids reason (buildMeta accounts base slots) := by
    apply avoids_metas
    intro slot mapped
    rcases List.mem_map.mp mapped with ⟨relative, member, rfl⟩
    have below := inside relative member
    simp only
    omega
  apply fixed.bind
  intro references _
  apply (avoids_pure references).bind
  intro _ _
  apply (avoids_trailingMetas within).bind
  intro _ _
  exact (avoids_account (by omega)).bind fun _ _ => avoids_pure _

theorem Cpmm.avoids_buildSwap {amountIn minimum : UInt64}
    {payer inMint outMint inAta outAta inProg outProg memo : ℕ}
    (within : base + 13 ≤ accounts.length)
    (inside : ∀ index ∈ [payer, inMint, outMint, inAta, outAta, inProg, outProg, memo],
      index < accounts.length) :
    Avoids reason (buildSwap accounts base amountIn minimum payer inMint outMint inAta outAta
      inProg outProg memo) := by
  have references : Avoids reason (metas accounts (swapSlots base payer inMint outMint inAta
      outAta inProg outProg memo)) := by
    apply avoids_metas
    simp only [List.forall_mem_cons] at inside
    simp only [swapSlots, List.forall_mem_cons]
    simp
    omega
  apply references.bind
  intro _ _
  exact (avoids_account (by omega)).bind fun _ _ => avoids_pure _

theorem Whirlpool.avoids_flagged {index : ℕ} {isSigner writable : Bool}
    (inside : index < accounts.length) :
    Avoids reason (flagged accounts index isSigner writable) :=
  (avoids_account inside).bind fun _ _ => avoids_pure _

/-- At most three tick arrays are read, whatever count is declared. -/
theorem Whirlpool.avoids_buildSwap {amountIn minimum : UInt64} {aToB : Bool}
    {ticks progA inAta outAta : ℕ} (progB : ℕ) (within : base + 12 ≤ accounts.length)
    (inside : ∀ index ∈ [progA, inAta, outAta], index < accounts.length) :
    Avoids reason (buildSwap accounts base ticks amountIn minimum aToB progA progB inAta
      outAta) := by
  have tickArrays : Avoids reason ((List.range (min ticks 3)).mapM fun i =>
      flagged accounts (base + 7 + i) false true) := by
    apply avoids_mapM
    intro i member
    have below := List.mem_range.mp member
    exact avoids_flagged (by omega)
  simp only [List.forall_mem_cons] at inside
  simp (disch := omega) only [buildSwap, avoids_bind_iff, avoids_flagged, tickArrays,
    avoids_account, avoids_pure, implies_true, and_self]

end Cpi

/-! ## Legs -/

/-- Every amount has an instruction. -/
def Leg.Safe (leg : Leg) : Prop :=
  ∀ amount, ∃ instruction, leg.build amount = .ok instruction

theorem RoutePumpToDlmm.safe_legs {plan : LegacyPlan}
    (checked : RoutePumpToDlmm.check pda accounts data = .ok plan) :
    (buyLeg accounts plan).Safe ∧ (sellLeg accounts plan).Safe := by
  rcases check_eq_ok.mp checked with ⟨_, _, _, pumpBase, dlmmBase, inside, _⟩
  constructor
  · intro amountIn
    apply exists_ok_of_avoids
    intro reason
    apply Cpi.PumpSwap.avoids_buildPumpSwap
    · simp only [pumpBuyFixedLen]
      omega
    · decide
    · decide
  · intro memeReceived
    apply exists_ok_of_avoids
    intro reason
    apply Cpi.Dlmm.avoids_buildSwap2 (by omega)
    simp only [List.forall_mem_cons]
    cases plan.route.dlmmSolIsX <;> simp <;> omega

theorem RouteDlmmToPump.safe_legs {plan : LegacyPlan}
    (checked : RouteDlmmToPump.check pda accounts data = .ok plan) :
    (buyLeg accounts plan).Safe ∧ (sellLeg accounts plan).Safe := by
  rcases check_eq_ok.mp checked with ⟨_, _, _, dlmmBase, pumpBase, inside, _⟩
  constructor
  · intro amountIn
    apply exists_ok_of_avoids
    intro reason
    apply Cpi.Dlmm.avoids_buildSwap2 (by omega)
    simp only [List.forall_mem_cons]
    cases plan.route.dlmmSolIsX <;> simp <;> omega
  · intro memeReceived
    apply exists_ok_of_avoids
    intro reason
    apply Cpi.PumpSwap.avoids_buildPumpSwap
    · simp only [pumpSellFixedLen]
      omega
    · decide
    · decide

namespace Orchestrate

section

variable {amountIn minimum : UInt64} {input output : ℕ} {reason : Abort}

/-- A DLMM swap between two of the shared accounts. -/
theorem avoids_dlmm (shared : 3 ≤ accounts.length) (inputShared : input < 3)
    (outputShared : output < 3) (within : base + 13 + remaining ≤ accounts.length) :
    Avoids reason (Cpi.Dlmm.buildSwap2 accounts base amountIn (base + 9) (base + 10)
      (base + 11) (base + 12) 0 input output remaining) := by
  apply Cpi.Dlmm.avoids_buildSwap2 (by omega)
  simp only [List.forall_mem_cons]
  simp
  omega

theorem avoids_cpmm (shared : 3 ≤ accounts.length) (inputShared : input < 3)
    (outputShared : output < 3) (within : base + 13 + remaining ≤ accounts.length) :
    Avoids reason (Cpi.Cpmm.buildSwap accounts base amountIn minimum 0 (base + 8) (base + 9)
      input output (base + 10) (base + 11) (base + 12)) := by
  apply Cpi.Cpmm.avoids_buildSwap (by omega)
  simp only [List.forall_mem_cons]
  simp
  omega

theorem avoids_whirlpool {aToB : Bool} (shared : 3 ≤ accounts.length)
    (inputShared : input < 3) (outputShared : output < 3)
    (within : base + 12 + remaining ≤ accounts.length) :
    Avoids reason (Cpi.Whirlpool.buildSwap accounts base remaining amountIn minimum aToB
      (base + 11) (base + 11) input output) := by
  apply Cpi.Whirlpool.avoids_buildSwap (base + 11) (by omega)
  simp only [List.forall_mem_cons]
  simp
  omega

variable {kind : DexKind}

theorem exists_buyCpi (shared : 3 ≤ accounts.length)
    (within : base + kind.fixedLen + remaining ≤ accounts.length) :
    ∃ instruction, buyCpi accounts kind base remaining amountIn minimum = .ok instruction := by
  apply exists_ok_of_avoids
  intro reason
  cases kind with
  | pumpSwap => exact Cpi.PumpSwap.avoids_buildPumpSwap within (by decide) (by decide)
  | dlmm => exact avoids_dlmm shared (by decide) (by decide) within
  | cpmm => exact avoids_cpmm shared (by decide) (by decide) within
  | whirlpool => exact avoids_whirlpool shared (by decide) (by decide) within

/-- A PumpSwap sale reads two accounts less than its section is counted with. -/
theorem exists_sellCpi (shared : 3 ≤ accounts.length)
    (within : base + kind.fixedLen + remaining ≤ accounts.length) :
    ∃ instruction,
      sellCpi accounts kind base remaining amountIn minimum = .ok instruction := by
  apply exists_ok_of_avoids
  intro reason
  cases kind with
  | pumpSwap =>
      simp only [DexKind.fixedLen, DexPumpSwap.pumpSwapBuyFixedLen, pumpBuyFixedLen] at within
      apply Cpi.PumpSwap.avoids_buildPumpSwap
      · simp only [pumpSellFixedLen]
        omega
      · decide
      · decide
  | dlmm => exact avoids_dlmm shared (by decide) (by decide) within
  | cpmm => exact avoids_cpmm shared (by decide) (by decide) within
  | whirlpool => exact avoids_whirlpool shared (by decide) (by decide) within

end

theorem safe_legs {plan : Plan} (checked : check pda accounts data = .ok plan) :
    (buyLeg accounts plan).Safe ∧ (sellLeg accounts plan).Safe := by
  rcases check_eq_ok.mp checked with ⟨planned, _⟩
  rcases plan_inside planned with ⟨shared, buyInside, sellInside⟩
  exact ⟨fun _ => exists_buyCpi shared buyInside, fun _ => exists_sellCpi shared sellInside⟩

end Orchestrate

/-! ## Settlement -/

theorem avoids_readTokenAmount (ledger : Ledger) (info : AccountInfo) :
    Avoids .panic (readTokenAmount ledger info) :=
  (avoids_guard _).bind fun _ _ => avoids_pure _

theorem avoids_aggregateSolBalance (ledger : Ledger) (wallet wsolAta : AccountInfo) :
    Avoids .panic (aggregateSolBalance ledger wallet wsolAta) :=
  (avoids_readTokenAmount ledger wsolAta).bind fun _ _ => avoids_orFail Abort.noConfusion

theorem Leg.avoids_run {leg : Leg} (safe : leg.Safe) (effect : CpiEffect)
    (accounts : List AccountInfo) (amount : UInt64) (ledger : Ledger) :
    Avoids .panic (leg.run effect accounts amount ledger) := by
  rcases safe amount with ⟨built, same⟩
  apply (avoids_of_eq_ok same).bind
  intro instruction _
  apply (avoids_withError Abort.noConfusion).bind
  intro after _
  exact avoids_pure _

theorem avoids_settle {amountIn minProfit : UInt64} {first second : Leg}
    {firstEffect secondEffect : CpiEffect} (shared : 3 ≤ accounts.length)
    (firstSafe : first.Safe) (secondSafe : second.Safe) :
    Avoids .panic (settle accounts amountIn minProfit first second firstEffect secondEffect
      ledger) := by
  have negative {amount : Option UInt64} :
      Avoids Abort.panic (orFail amount (.error (.custom arbNegativeNet))) :=
    avoids_orFail Abort.noConfusion
  simp (disch := simp; omega) only [settle, arbErr, avoids_bind_iff, avoids_account,
    avoids_guard, avoids_readTokenAmount, avoids_aggregateSolBalance, negative,
    Leg.avoids_run firstSafe, Leg.avoids_run secondSafe, avoids_pure, implies_true, and_self]

/-! ## The entry point -/

theorem avoids_prepare (pda : FindProgramAddress) (accounts : List AccountInfo)
    (data : List UInt8) : Avoids .panic (prepare pda accounts data) := by
  apply (avoids_guard _).bind
  intro _ _
  dsimp only
  split
  · exact RoutePumpToDlmm.avoids_check.bind fun _ _ => avoids_pure _
  · split
    · exact RouteDlmmToPump.avoids_check.bind fun _ _ => avoids_pure _
    · split
      · exact Orchestrate.avoids_check.bind fun _ _ => avoids_pure _
      · exact avoids_error Abort.noConfusion

/-- The checks of a handler succeed only on an account list with the shared accounts, and
the legs that it goes on to settle are safe. -/
theorem prepare_safe {prepared : Prepared}
    (accepted : prepare pda accounts data = .ok prepared) :
    3 ≤ accounts.length ∧ prepared.first.Safe ∧ prepared.second.Safe := by
  obtain ⟨_, plan, checked, rfl⟩ | ⟨_, plan, checked, rfl⟩ | ⟨_, plan, checked, rfl⟩ :=
    prepare_cases accepted
  · rcases RoutePumpToDlmm.check_eq_ok.mp checked with ⟨_, _, _, _, dlmmBase, inside, _⟩
    exact ⟨by omega, RoutePumpToDlmm.safe_legs checked⟩
  · rcases RouteDlmmToPump.check_eq_ok.mp checked with ⟨_, _, _, _, pumpBase, inside, _⟩
    exact ⟨by omega, RouteDlmmToPump.safe_legs checked⟩
  · rcases Orchestrate.check_eq_ok.mp checked with ⟨planned, _⟩
    exact ⟨(Orchestrate.plan_inside planned).1, Orchestrate.safe_legs checked⟩

theorem avoids_processInstruction (pda : FindProgramAddress) (first second : CpiEffect)
    (accounts : List AccountInfo) (data : List UInt8) (ledger : Ledger) :
    Avoids .panic (processInstruction pda first second accounts data ledger) := by
  rw [processInstruction_eq]
  apply (avoids_prepare pda accounts data).bind
  intro prepared accepted
  rcases prepare_safe accepted with ⟨shared, firstSafe, secondSafe⟩
  exact avoids_settle shared firstSafe secondSafe

/-- On every account list, every instruction data and every behaviour of the exchanges the
program ends with `Ok` or an error: with indices in `usize` and slices cut at their bounds,
no sum overflows and no index is out of range. -/
theorem Machine.processInstruction_total (pda : FindProgramAddress) (first second : CpiEffect)
    (accounts : List AccountInfo) (data : List UInt8) (ledger : Ledger) :
    (∃ receipt, processInstruction pda first second accounts data ledger = .ok receipt) ∨
      ∃ reason, processInstruction pda first second accounts data ledger =
        .error (.error reason) := by
  have avoids := avoids_processInstruction pda first second accounts data ledger
  rw [← Machine.processInstruction_eq] at avoids
  cases ended : processInstruction pda first second accounts data ledger with
  | ok receipt => exact .inl ⟨receipt, rfl⟩
  | error failure =>
      cases failure with
      | error reason => exact .inr ⟨reason, rfl⟩
      | panic => exact absurd ended avoids

end AtomicArbitrage.Program

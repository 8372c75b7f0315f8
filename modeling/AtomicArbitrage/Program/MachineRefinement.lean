import AtomicArbitrage.Program.Machine

/-!
# Machine indices are numbers

No sum of indices overflows and no slice of the instruction data or of an account's data is
out of bounds, so the program with machine indices computes what the program on numbers
computes, function by function.
-/

namespace AtomicArbitrage.Program.Machine

open Outcome Word64

variable {accounts : List AccountInfo} {data : List UInt8} {ledger : Ledger}
  {pda : FindProgramAddress} {base offset remaining : ℕ}

/-! ## Operations that cannot fail -/

theorem add_eq {left right : ℕ} (fits : left + right < 2 ^ 64) :
    add left right = .ok (left + right) := if_pos fits

theorem byte_eq {index : ℕ} (inside : index < data.length) :
    byte data index = .ok (data.getD index 0) := by
  rw [byte, List.getD_eq_getElem?_getD, List.getElem?_eq_getElem inside]
  rfl

theorem word_eq {start : ℕ} (inside : start + 8 ≤ data.length) (fits : start + 8 < 2 ^ 64) :
    word data start = .ok (readAt data start) := by
  rw [word, add_eq fits, ok_bind, require, if_pos inside]
  rfl

theorem accountAt_eq (fits : base + offset < 2 ^ 64) :
    accountAt accounts base offset = account accounts (base + offset) := by
  rw [accountAt, add_eq fits]
  rfl

theorem expectKey_eq {key : Pubkey} {reason : Abort} (fits : base + offset < 2 ^ 64) :
    expectKey accounts base offset key reason =
      Program.expectKey accounts (base + offset) key reason := by
  rw [expectKey, accountAt_eq fits]
  rfl

theorem expectOwner_eq {owner : Pubkey} {reason : Abort} (fits : base + offset < 2 ^ 64) :
    expectOwner accounts base offset owner reason =
      Program.expectOwner accounts (base + offset) owner reason := by
  rw [expectOwner, accountAt_eq fits]
  rfl

/-! ## Balances -/

theorem readTokenAmount_eq (ledger : Ledger) (info : AccountInfo) :
    readTokenAmount ledger info = Program.readTokenAmount ledger info := by
  apply bind_congr_ok
  intro _ long
  rw [require_eq_ok, not_lt] at long
  exact word_eq long (by decide)

theorem aggregateSolBalance_eq (ledger : Ledger) (wallet wsolAta : AccountInfo) :
    aggregateSolBalance ledger wallet wsolAta =
      Program.aggregateSolBalance ledger wallet wsolAta := by
  rw [aggregateSolBalance, readTokenAmount_eq]
  rfl

theorem settle_eq : settle = Program.settle := by
  funext accounts amountIn minProfit first second firstEffect secondEffect ledger
  simp only [settle, aggregateSolBalance_eq, readTokenAmount_eq]
  rfl

/-! ## Instruction data -/

theorem parseLegacy_eq (data : List UInt8) : parseLegacy data = LegacyData.parse data := by
  apply bind_congr_ok
  intro _ size
  rw [require_eq_ok] at size
  simp only [ixDataLen] at size
  simp (disch := omega) only [word_eq, byte_eq, ok_bind, offAmountIn, offMinProfit,
    offMinIntermediate, offTrackVolume, offDlmmSolIsX, offPumpRemaining,
    offDlmmBinArrayCount]
  rfl

namespace Orchestrate

theorem parse_eq (data : List UInt8) : parse data = Program.Orchestrate.parse data := by
  apply bind_congr_ok
  intro _ size
  rw [require_eq_ok] at size
  simp only [ixDataLen] at size
  simp (disch := omega) only [word_eq, byte_eq, ok_bind, offAmountIn, offMinProfit,
    offMinIntermediate, offTrackVolume, offDlmmSolIsX, offBuyRemaining, offSellRemaining]
  rfl

/-- A probe outside of the account list finds nothing, and one inside reads its account. -/
theorem probe_eq {found : Type} (index : ℕ) (result : AccountInfo → Exec (Option found)) :
    (if index ≥ accounts.length then pure none else account accounts index >>= result) =
      match accounts[index]? with
      | none => .ok none
      | some info => result info := by
  split
  · next outside => rw [List.getElem?_eq_none outside]
                    rfl
  · next inside =>
      rw [account, List.getElem?_eq_getElem (Nat.not_le.mp inside)]
      rfl

theorem identifyDex_eq (small : base + 16 < 2 ^ 64) :
    identifyDex accounts base = .ok (Program.Orchestrate.identifyDex accounts base) := by
  rw [identifyDex, probe_eq, Program.Orchestrate.identifyDex]
  cases accounts[base]? with
  | none => rfl
  | some first =>
      simp only [add_eq small, ok_bind]
      cases DexKind.fromProgramId first.key with
      | some kind => rfl
      | none =>
          simp only [probe_eq]
          cases accounts[base + 16]? with
          | none => rfl
          | some second => rfl

/-- The two remaining counts are bytes. -/
theorem decode_small (data : List UInt8) :
    (Program.Orchestrate.RouteData.decode data).buyRemaining < 256 ∧
      (Program.Orchestrate.RouteData.decode data).sellRemaining < 256 :=
  ⟨UInt8.toNat_lt _, UInt8.toNat_lt _⟩

theorem fixedLen_le (kind : DexKind) : kind.fixedLen ≤ 23 := by
  cases kind <;> decide

theorem plan_eq (accounts : List AccountInfo) (data : List UInt8) :
    plan accounts data = Program.Orchestrate.plan accounts data := by
  rw [plan, Program.Orchestrate.plan, parse_eq]
  apply bind_congr_ok
  intro route parsed
  rcases bind_eq_ok.mp parsed with ⟨_, _, decoded⟩
  rcases decode_small data with ⟨buySmall, sellSmall⟩
  rw [pure_eq_ok.mp decoded] at buySmall sellSmall
  apply bind_congr_ok
  intro _ _
  have start : sharedFixedLen + 16 < 2 ^ 64 := by decide
  simp only [identifyDex_eq start, ok_bind]
  apply bind_congr_ok
  intro buyKind _
  have buyLen := fixedLen_le buyKind
  simp (disch := omega) only [sharedFixedLen, add_eq, ok_bind, identifyDex_eq]
  apply bind_congr_ok
  intro sellKind _
  have sellLen := fixedLen_le sellKind
  apply bind_congr_ok
  intro _ _
  simp (disch := omega) only [add_eq, ok_bind]
  rfl

end Orchestrate

/-! ## Section validators -/

theorem DexPumpSwap.validateSection_eq (remaining : ℕ) (small : base + 23 < 2 ^ 64) :
    validateSection pda accounts base remaining =
      Program.DexPumpSwap.validateSection pda accounts base remaining := by
  simp (disch := simp; omega) only [validateSection, Program.DexPumpSwap.validateSection,
    expectKey_eq]

theorem DexDlmm.validateSection_eq (remaining : ℕ) (small : base + 23 < 2 ^ 64) :
    validateSection pda accounts base remaining =
      Program.DexDlmm.validateSection pda accounts base remaining := by
  simp (disch := simp; omega) only [validateSection, Program.DexDlmm.validateSection,
    expectKey_eq, expectOwner_eq, accountAt_eq]

theorem DexCpmm.validateSection_eq (remaining : ℕ) (small : base + 23 < 2 ^ 64) :
    validateSection pda accounts base remaining =
      Program.DexCpmm.validateSection pda accounts base remaining := by
  simp (disch := omega) only [validateSection, Program.DexCpmm.validateSection,
    expectKey_eq, expectOwner_eq, accountAt_eq]

theorem DexWhirlpool.validateSection_eq (remaining : ℕ) (small : base + 23 < 2 ^ 64) :
    validateSection pda accounts base remaining =
      Program.DexWhirlpool.validateSection pda accounts base remaining := by
  simp (disch := omega) only [validateSection, Program.DexWhirlpool.validateSection,
    expectKey_eq, expectOwner_eq, accountAt_eq]

theorem Orchestrate.validateDexSection_eq {kind : DexKind} (small : base + 23 < 2 ^ 64) :
    validateDexSection pda accounts kind base remaining =
      Program.Orchestrate.validateDexSection pda accounts kind base remaining := by
  cases kind with
  | pumpSwap => exact DexPumpSwap.validateSection_eq remaining small
  | dlmm => exact DexDlmm.validateSection_eq remaining small
  | cpmm => exact DexCpmm.validateSection_eq remaining small
  | whirlpool => exact DexWhirlpool.validateSection_eq remaining small

/-! ## CPI builders -/

namespace Cpi

theorem metas_eq {slots : List (ℕ × ℕ × Bool)}
    (fit : ∀ slot ∈ slots, slot.1 + slot.2.1 < 2 ^ 64) :
    metas accounts slots =
      Program.Cpi.metas accounts (slots.map fun slot => (slot.1 + slot.2.1, slot.2.2)) := by
  rw [metas, Program.Cpi.metas, List.mapM_map]
  apply mapM_congr
  intro slot inside
  rw [add_eq (fit slot inside)]
  rfl

theorem trailingMetas_eq {fixedLen count : ℕ} {writable : AccountInfo → Bool}
    (small : base + fixedLen + count < 2 ^ 64) :
    trailingMetas accounts base fixedLen count writable =
      Program.Cpi.trailingMetas accounts (base + fixedLen) count writable := by
  apply mapM_congr
  intro i inside
  have below := List.mem_range.mp inside
  rw [add_eq (by omega), ok_bind, accountAt_eq (by omega)]

theorem Dlmm.buildSwap2_eq {amountIn : UInt64}
    {xMint yMint xProgram yProgram user tokenIn tokenOut bins : ℕ}
    (small : base + 23 + bins < 2 ^ 64)
    (inside : ∀ index ∈ [xMint, yMint, xProgram, yProgram, user, tokenIn, tokenOut],
      index < 2 ^ 64) :
    buildSwap2 accounts base amountIn xMint yMint xProgram yProgram user tokenIn tokenOut
        bins =
      Program.Cpi.Dlmm.buildSwap2 accounts base amountIn xMint yMint xProgram yProgram user
        tokenIn tokenOut bins := by
  simp only [List.forall_mem_cons] at inside
  rw [buildSwap2, Program.Cpi.Dlmm.buildSwap2, metas_eq, trailingMetas_eq, accountAt_eq]
  · rfl
  · simp only [dlmmProgramRel]
    omega
  · simp only [dlmmBinArraysStartRel]
    omega
  · simp only [swap2Slots, List.forall_mem_cons]
    simp
    omega

theorem PumpSwap.buildPumpSwap_eq {slots : List (ℕ × Bool)} {fixedLen programRel : ℕ}
    {override : Option ℕ} (small : base + 23 + remaining < 2 ^ 64)
    (inside : ∀ slot ∈ slots, slot.1 < 23) (fixedSmall : fixedLen ≤ 23)
    (programSmall : programRel < 23) :
    buildPumpSwap accounts base remaining slots fixedLen programRel data override =
      Program.Cpi.PumpSwap.buildPumpSwap accounts base remaining slots fixedLen programRel data
        override := by
  rw [buildPumpSwap, Program.Cpi.PumpSwap.buildPumpSwap, metas_eq, trailingMetas_eq (by omega),
    accountAt_eq (by omega), List.map_map]
  · rfl
  · intro slot mapped
    rcases List.mem_map.mp mapped with ⟨relative, member, rfl⟩
    have below := inside relative member
    simp only
    omega

theorem PumpSwap.buildBuy_eq {amountIn minimum : UInt64} {trackVolume : Bool}
    {override : Option ℕ} (small : base + 23 + remaining < 2 ^ 64) :
    buildBuy accounts base remaining amountIn minimum trackVolume override =
      Program.Cpi.PumpSwap.buildBuy accounts base remaining amountIn minimum trackVolume
        override :=
  buildPumpSwap_eq small (by decide) (by decide) (by decide)

theorem PumpSwap.buildSell_eq {amountIn minimum : UInt64} {override : Option ℕ}
    (small : base + 23 + remaining < 2 ^ 64) :
    buildSell accounts base remaining amountIn minimum override =
      Program.Cpi.PumpSwap.buildSell accounts base remaining amountIn minimum override :=
  buildPumpSwap_eq small (by decide) (by decide) (by decide)

theorem Cpmm.buildSwap_eq {amountIn minimum : UInt64}
    {payer inMint outMint inAta outAta inProg outProg memo : ℕ}
    (small : base + 23 < 2 ^ 64)
    (inside : ∀ index ∈ [payer, inMint, outMint, inAta, outAta, inProg, outProg, memo],
      index < 2 ^ 64) :
    buildSwap accounts base amountIn minimum payer inMint outMint inAta outAta inProg outProg
        memo =
      Program.Cpi.Cpmm.buildSwap accounts base amountIn minimum payer inMint outMint inAta
        outAta inProg outProg memo := by
  simp only [List.forall_mem_cons] at inside
  rw [buildSwap, Program.Cpi.Cpmm.buildSwap, metas_eq]
  · rfl
  · simp only [swapSlots, List.forall_mem_cons]
    simp
    omega

theorem Whirlpool.flagged_eq {isSigner writable : Bool} (fits : base + offset < 2 ^ 64) :
    flagged accounts base offset isSigner writable =
      Program.Cpi.Whirlpool.flagged accounts (base + offset) isSigner writable := by
  rw [flagged, add_eq fits]
  rfl

theorem Whirlpool.buildSwap_eq {amountIn minimum : UInt64} {aToB : Bool}
    {ticks progA progB inAta outAta : ℕ} (small : base + 23 < 2 ^ 64) :
    buildSwap accounts base ticks amountIn minimum aToB progA progB inAta outAta =
      Program.Cpi.Whirlpool.buildSwap accounts base ticks amountIn minimum aToB progA progB
        inAta outAta := by
  have tickArrays :
      (List.range (min ticks 3)).mapM (fun i => do
        let start ← add base 7
        flagged accounts start i false true) =
      (List.range (min ticks 3)).mapM fun i =>
        Program.Cpi.Whirlpool.flagged accounts (base + 7 + i) false true := by
    apply mapM_congr
    intro i inside
    have below := List.mem_range.mp inside
    rw [add_eq (by omega), ok_bind, flagged_eq (by omega)]
  rw [buildSwap, tickArrays]
  simp (disch := omega) only [flagged_eq]
  rfl

end Cpi

/-! ## Handlers -/

theorem RoutePumpToDlmm.check_eq :
    check pda accounts data = Program.RoutePumpToDlmm.check pda accounts data := by
  rw [check, Program.RoutePumpToDlmm.check, parseLegacy_eq]
  apply bind_congr_ok
  intro route _
  apply bind_congr_ok
  intro _ valid
  have counts := LegacyData.validate_eq_ok.mp valid
  have pumpSmall := counts.pumpRemaining
  have binsSmall := counts.binArraysLe
  simp (disch := first | decide | (simp; omega)) only [add_eq, ok_bind, expectKey_eq, accountAt_eq]

theorem RouteDlmmToPump.check_eq :
    check pda accounts data = Program.RouteDlmmToPump.check pda accounts data := by
  rw [check, Program.RouteDlmmToPump.check, parseLegacy_eq]
  apply bind_congr_ok
  intro route _
  apply bind_congr_ok
  intro _ valid
  have counts := LegacyData.validate_eq_ok.mp valid
  have pumpSmall := counts.pumpRemaining
  have binsSmall := counts.binArraysLe
  simp (disch := first | decide | (simp; omega)) only [add_eq, ok_bind, expectKey_eq, accountAt_eq]

/-- The indices that a legacy route passes to the DLMM builder. -/
theorem route_indices_lt {quoteMint baseMint quoteProg memeTpIdx tokenIn tokenOut : ℕ}
    (solIsX : Bool)
    (small : ∀ index ∈ [quoteMint, baseMint, quoteProg, memeTpIdx, tokenIn, tokenOut],
      index < 2 ^ 64) :
    ∀ index ∈ [if solIsX then quoteMint else baseMint, if solIsX then baseMint else quoteMint,
      if solIsX then quoteProg else memeTpIdx, if solIsX then memeTpIdx else quoteProg,
      userIdx, tokenIn, tokenOut], index < 2 ^ 64 := by
  simp only [List.forall_mem_cons] at small
  simp only [List.forall_mem_cons]
  cases solIsX with
  | false =>
      simp
      omega
  | true =>
      simp
      omega

theorem RoutePumpToDlmm.legs_eq {plan : LegacyPlan}
    (checked : Program.RoutePumpToDlmm.check pda accounts data = .ok plan) :
    buyLeg accounts plan = Program.RoutePumpToDlmm.buyLeg accounts plan ∧
      sellLeg accounts plan = Program.RoutePumpToDlmm.sellLeg accounts plan := by
  rcases Program.RoutePumpToDlmm.check_eq_ok.mp checked with
    ⟨_, _, valid, pumpBase, dlmmBase, _⟩
  have pumpSmall := valid.pumpRemaining
  have binsSmall := valid.binArraysLe
  constructor
  · rw [buyLeg, Program.RoutePumpToDlmm.buyLeg]
    congr 1
    funext amountIn
    exact Cpi.PumpSwap.buildBuy_eq (by omega)
  · rw [sellLeg, Program.RoutePumpToDlmm.sellLeg]
    congr 1
    funext memeReceived
    simp (disch := first | decide | (simp; omega)) only [add_eq, ok_bind]
    apply Cpi.Dlmm.buildSwap2_eq (by omega)
    apply route_indices_lt
    simp only [List.forall_mem_cons]
    simp
    omega

theorem RouteDlmmToPump.legs_eq {plan : LegacyPlan}
    (checked : Program.RouteDlmmToPump.check pda accounts data = .ok plan) :
    buyLeg accounts plan = Program.RouteDlmmToPump.buyLeg accounts plan ∧
      sellLeg accounts plan = Program.RouteDlmmToPump.sellLeg accounts plan := by
  rcases Program.RouteDlmmToPump.check_eq_ok.mp checked with
    ⟨_, _, valid, dlmmBase, pumpBase, _⟩
  have pumpSmall := valid.pumpRemaining
  have binsSmall := valid.binArraysLe
  constructor
  · rw [buyLeg, Program.RouteDlmmToPump.buyLeg]
    congr 1
    funext amountIn
    simp (disch := first | decide | (simp; omega)) only [add_eq, ok_bind]
    apply Cpi.Dlmm.buildSwap2_eq (by omega)
    apply route_indices_lt
    simp only [List.forall_mem_cons]
    simp
    omega
  · rw [sellLeg, Program.RouteDlmmToPump.sellLeg]
    congr 1
    funext memeReceived
    exact Cpi.PumpSwap.buildSell_eq (by omega)

namespace Orchestrate

/-- The legs of the exchanges with one builder for both directions. -/
theorem legCpi_eq {kind : DexKind} {amountIn minimum : UInt64} {pumpSwap : Exec Instruction}
    {aToB : Bool} {inputIdx outputIdx : ℕ} (small : base + 23 + remaining < 2 ^ 64)
    (input : inputIdx < 2 ^ 64) (output : outputIdx < 2 ^ 64) :
    legCpi accounts kind base remaining amountIn minimum pumpSwap aToB inputIdx outputIdx =
      match kind with
      | .pumpSwap => pumpSwap
      | .dlmm => Program.Cpi.Dlmm.buildSwap2 accounts base amountIn (base + 9) (base + 10)
          (base + 11) (base + 12) 0 inputIdx outputIdx remaining
      | .cpmm => Program.Cpi.Cpmm.buildSwap accounts base amountIn minimum 0 (base + 8)
          (base + 9) inputIdx outputIdx (base + 10) (base + 11) (base + 12)
      | .whirlpool => Program.Cpi.Whirlpool.buildSwap accounts base remaining amountIn minimum
          aToB (base + 11) (base + 11) inputIdx outputIdx := by
  cases kind with
  | pumpSwap => rfl
  | dlmm =>
      simp (disch := first | decide | (simp; omega)) only [legCpi, add_eq, ok_bind]
      apply Cpi.Dlmm.buildSwap2_eq small
      simp only [List.forall_mem_cons]
      simp
      omega
  | cpmm =>
      simp (disch := omega) only [legCpi, add_eq, ok_bind]
      apply Cpi.Cpmm.buildSwap_eq (by omega)
      simp only [List.forall_mem_cons]
      simp
      omega
  | whirlpool =>
      simp (disch := first | decide | (simp; omega)) only [legCpi, add_eq, ok_bind]
      exact Cpi.Whirlpool.buildSwap_eq (by omega)

theorem buyCpi_eq {kind : DexKind} {amountIn minimum : UInt64}
    (small : base + 23 + remaining < 2 ^ 64) :
    buyCpi accounts kind base remaining amountIn minimum =
      Program.Orchestrate.buyCpi accounts kind base remaining amountIn minimum := by
  rw [buyCpi, legCpi_eq small (by decide) (by decide), Cpi.PumpSwap.buildBuy_eq small]
  cases kind <;> rfl

theorem sellCpi_eq {kind : DexKind} {amountIn minimum : UInt64}
    (small : base + 23 + remaining < 2 ^ 64) :
    sellCpi accounts kind base remaining amountIn minimum =
      Program.Orchestrate.sellCpi accounts kind base remaining amountIn minimum := by
  rw [sellCpi, legCpi_eq small (by decide) (by decide), Cpi.PumpSwap.buildSell_eq small]
  cases kind <;> rfl

/-- Both sections of a plan begin early. -/
theorem plan_small {plan : Program.Orchestrate.Plan}
    (planned : Program.Orchestrate.plan accounts data = .ok plan) :
    plan.buyBase + 23 + plan.route.buyRemaining < 1024 ∧
      plan.sellBase + 23 + plan.route.sellRemaining < 1024 := by
  rcases Program.Orchestrate.plan_eq_ok.mp planned with
    ⟨_, decoded, _, _, buyBase, _, sellBase, _⟩
  rcases decode_small data with ⟨buySmall, sellSmall⟩
  have buyLen := fixedLen_le plan.buyKind
  rw [← decoded] at buySmall sellSmall
  omega

theorem check_eq : check pda accounts data = Program.Orchestrate.check pda accounts data := by
  rw [check, Program.Orchestrate.check, plan_eq]
  apply bind_congr_ok
  intro plan planned
  rcases plan_small planned with ⟨buySmall, sellSmall⟩
  rw [validateDexSection_eq (by omega), validateDexSection_eq (by omega)]

theorem legs_eq {plan : Program.Orchestrate.Plan}
    (checked : Program.Orchestrate.check pda accounts data = .ok plan) :
    buyLeg accounts plan = Program.Orchestrate.buyLeg accounts plan ∧
      sellLeg accounts plan = Program.Orchestrate.sellLeg accounts plan := by
  rcases Program.Orchestrate.check_eq_ok.mp checked with ⟨planned, _⟩
  rcases plan_small planned with ⟨buySmall, sellSmall⟩
  constructor
  · rw [buyLeg, Program.Orchestrate.buyLeg]
    congr 1
    funext amountIn
    exact buyCpi_eq (by omega)
  · rw [sellLeg, Program.Orchestrate.sellLeg]
    congr 1
    funext amountIn
    exact sellCpi_eq (by omega)

end Orchestrate

/-- No index overflows and no slice is out of bounds: the program with machine indices
computes what the program on numbers computes. -/
theorem processInstruction_eq (pda : FindProgramAddress) (first second : CpiEffect)
    (accounts : List AccountInfo) (data : List UInt8) (ledger : Ledger) :
    processInstruction pda first second accounts data ledger =
      Program.processInstruction pda first second accounts data ledger := by
  apply bind_congr_ok
  intro _ long
  rw [require_eq_ok, not_lt] at long
  rw [discriminator, require, if_pos long, ok_bind, pure_bind]
  have legacyBuy : RoutePumpToDlmm.handle pda first second accounts data ledger =
      Program.RoutePumpToDlmm.handle pda first second accounts data ledger := by
    rw [RoutePumpToDlmm.handle, Program.RoutePumpToDlmm.handle, RoutePumpToDlmm.check_eq]
    apply bind_congr_ok
    intro plan checked
    rcases RoutePumpToDlmm.legs_eq checked with ⟨buy, sell⟩
    rw [buy, sell, settle_eq]
  have legacySell : RouteDlmmToPump.handle pda first second accounts data ledger =
      Program.RouteDlmmToPump.handle pda first second accounts data ledger := by
    rw [RouteDlmmToPump.handle, Program.RouteDlmmToPump.handle, RouteDlmmToPump.check_eq]
    apply bind_congr_ok
    intro plan checked
    rcases RouteDlmmToPump.legs_eq checked with ⟨buy, sell⟩
    rw [buy, sell, settle_eq]
  have generic : Orchestrate.handle pda first second accounts data ledger =
      Program.Orchestrate.handle pda first second accounts data ledger := by
    rw [Orchestrate.handle, Program.Orchestrate.handle, Orchestrate.check_eq]
    apply bind_congr_ok
    intro plan checked
    rcases Orchestrate.legs_eq checked with ⟨buy, sell⟩
    rw [buy, sell, settle_eq]
  rw [legacyBuy, legacySell, generic]

end AtomicArbitrage.Program.Machine

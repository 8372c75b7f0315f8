import AtomicArbitrage.Program.Entry

/-!
# The intermediate-slippage guard

An instruction names the least amount of intermediate tokens its first leg has to
deliver.  The program leaves the enforcement to the exchanges, through the minimum
output of the CPI data.  This module says for which instructions that works, assuming
exchanges that honour the minimum they are given.
-/

namespace AtomicArbitrage.Program

open Outcome Word64

/-! ## Exchanges that honour their minimum -/

/-- The position of the user's output account: a PumpSwap sale delivers to the quote
account, every other instruction of the program to the account at position five. -/
def outputSlot (instruction : Instruction) : Nat :=
  if instruction.data.take 8 = pumpSellDisc then 6 else 5

/-- The account into which an exchange delivers. -/
def outputAccount (instruction : Instruction) : Option Pubkey :=
  (instruction.accounts[outputSlot instruction]?).map AccountMeta.pubkey

/-- The output account has gained the minimum output. -/
def Delivers (instruction : Instruction) (before after : Ledger) : Prop :=
  ∃ key ∈ outputAccount instruction,
    (tokenAmount before key).toNat + (Cpi.minAmountOut instruction).toNat ≤
      (tokenAmount after key).toNat

instance (instruction : Instruction) (before after : Ledger) :
    Decidable (Delivers instruction before after) :=
  inferInstanceAs (Decidable (∃ key ∈ outputAccount instruction,
    (tokenAmount before key).toNat + (Cpi.minAmountOut instruction).toNat ≤
      (tokenAmount after key).toNat))

/-- An exchange that fails unless it delivers the minimum output of its CPI data. -/
def Honest (effect : CpiEffect) : Prop :=
  ∀ instruction accounts before after,
    effect instruction accounts before = .ok after → Delivers instruction before after

/-- The exchange that moves every ledger to `target` when that delivers the minimum. -/
def conforming (target : Ledger) : CpiEffect := fun instruction _ before =>
  if Delivers instruction before target then .ok target else .error (.custom 0)

theorem conforming_eq_ok {target : Ledger} {instruction : Instruction}
    {accounts : List AccountInfo} {before after : Ledger} :
    conforming target instruction accounts before = .ok after ↔
      Delivers instruction before target ∧ target = after := by
  rw [conforming]
  split <;> simp_all

theorem honest_conforming (target : Ledger) : Honest (conforming target) := by
  intro instruction accounts before after moved
  rcases conforming_eq_ok.mp moved with ⟨delivers, rfl⟩
  exact delivers

/-! ## Where a leg delivers, and how much it asks for -/

/-- A leg delivers to the account at an index and asks for a minimum, whatever amount
it is built with. -/
structure Leg.Targets (leg : Leg) (accounts : List AccountInfo) (index : Nat)
    (minimum : UInt64) : Prop where
  built : ∀ amount instruction, leg.build amount = .ok instruction →
    ∃ info, accounts[index]? = some info ∧ outputAccount instruction = some info.key ∧
      Cpi.minAmountOut instruction = minimum
  rebuild : ∀ amount instruction, leg.build amount = .ok instruction →
    ∀ other, ∃ rebuilt, leg.build other = .ok rebuilt

section

variable {accounts : List AccountInfo} {failure : Nat}

/-- An instruction that is not a PumpSwap sale delivers to its sixth reference. -/
theorem outputAccount_of_fifth {instruction : Instruction} {disc : List UInt8}
    {amount minimum : UInt64} {reference : AccountMeta}
    (asks : Cpi.Asks instruction disc amount minimum) (notSale : disc ≠ pumpSellDisc)
    (entry : instruction.accounts[5]? = some reference) :
    outputAccount instruction = some reference.pubkey := by
  rw [outputAccount, outputSlot, if_neg (asks.disc ▸ notSale), entry, Option.map_some]

theorem swap2_targets (base xMint yMint xProg yProg user tokenIn tokenOut bins : Nat) :
    Leg.Targets ⟨fun amount => Cpi.Dlmm.buildSwap2 accounts base amount xMint yMint xProg
      yProg user tokenIn tokenOut bins, failure⟩ accounts tokenOut 1 where
  built amount instruction built := by
    rcases Cpi.Dlmm.buildSwap2_output built with ⟨info, infoAt, entry⟩
    have asks := Cpi.Dlmm.buildSwap2_asks built
    refine ⟨info, infoAt, ?_, asks.minAmountOut⟩
    rw [outputAccount_of_fifth asks (by decide) entry, Cpi.asMeta_pubkey]
  rebuild amount instruction built other := ⟨_, Cpi.Dlmm.buildSwap2_rebuild built other⟩

theorem pumpBuy_targets (base remaining : Nat) (minimum : UInt64) (trackVolume : Bool) :
    Leg.Targets ⟨fun amount => Cpi.PumpSwap.buildBuy accounts base remaining amount minimum
      trackVolume none, failure⟩ accounts (base + 5) minimum where
  built amount instruction built := by
    obtain ⟨info, infoAt, entry⟩ :=
      Cpi.PumpSwap.buildPumpSwap_getElem? built
        (show Cpi.PumpSwap.buySlots[5]? = some (5, true) from rfl)
    have asks := Cpi.PumpSwap.buildBuy_asks built
    refine ⟨info, infoAt, ?_, asks.minAmountOut⟩
    rw [outputAccount_of_fifth asks (by decide) entry, Cpi.asMeta_pubkey]
  rebuild amount instruction built other :=
    ⟨_, Cpi.PumpSwap.buildPumpSwap_rebuild built _⟩

theorem pumpSell_targets (base remaining : Nat) (minimum : UInt64) :
    Leg.Targets ⟨fun amount => Cpi.PumpSwap.buildSell accounts base remaining amount minimum
      none, failure⟩ accounts (base + 6) minimum where
  built amount instruction built := by
    obtain ⟨info, infoAt, entry⟩ :=
      Cpi.PumpSwap.buildPumpSwap_getElem? built
        (show Cpi.PumpSwap.sellSlots[6]? = some (6, true) from rfl)
    have asks := Cpi.PumpSwap.buildSell_asks built
    refine ⟨info, infoAt, ?_, asks.minAmountOut⟩
    rw [outputAccount, outputSlot, if_pos asks.disc, entry, Option.map_some,
      Cpi.asMeta_pubkey]
  rebuild amount instruction built other :=
    ⟨_, Cpi.PumpSwap.buildPumpSwap_rebuild built _⟩

theorem cpmm_targets (base payer inMint outMint inAta outAta inProg outProg memo : Nat)
    (minimum : UInt64) :
    Leg.Targets ⟨fun amount => Cpi.Cpmm.buildSwap accounts base amount minimum payer inMint
      outMint inAta outAta inProg outProg memo, failure⟩ accounts outAta minimum where
  built amount instruction built := by
    rcases Cpi.Cpmm.buildSwap_output built with ⟨info, infoAt, entry⟩
    have asks := Cpi.Cpmm.buildSwap_asks built
    refine ⟨info, infoAt, ?_, asks.minAmountOut⟩
    rw [outputAccount_of_fifth asks (by decide) entry, Cpi.asMeta_pubkey]
  rebuild amount instruction built other := ⟨_, Cpi.Cpmm.buildSwap_rebuild built other⟩

theorem whirlpool_targets (base ticks progA progB inAta outAta : Nat) (minimum : UInt64)
    (aToB : Bool) :
    Leg.Targets ⟨fun amount => Cpi.Whirlpool.buildSwap accounts base ticks amount minimum
      aToB progA progB inAta outAta, failure⟩ accounts outAta minimum where
  built amount instruction built := by
    rcases Cpi.Whirlpool.buildSwap_output progB built with ⟨info, infoAt, entry⟩
    have asks := Cpi.Whirlpool.buildSwap_asks progB built
    exact ⟨info, infoAt, outputAccount_of_fifth asks (by decide) entry, asks.minAmountOut⟩
  rebuild amount instruction built other := ⟨_, Cpi.Whirlpool.buildSwap_rebuild progB built other⟩

/-- The account index a first leg of a kind delivers to: PumpSwap uses the slot of its
own section, the others use the shared token account. -/
def buyOutputIdx (kind : DexKind) : Nat :=
  if kind = .pumpSwap then 8 else 2

/-- The minimum a first leg of a kind asks for: the guard's amount, except for DLMM. -/
def buyMinimum (kind : DexKind) (minIntermediate : UInt64) : UInt64 :=
  if kind = .dlmm then 1 else minIntermediate

theorem buyLeg_targets {plan : Orchestrate.Plan} (base : plan.buyBase = 3) :
    (Orchestrate.buyLeg accounts plan).Targets accounts (buyOutputIdx plan.buyKind)
      (buyMinimum plan.buyKind plan.route.minIntermediate) := by
  rcases plan with ⟨route, buyKind, sellKind, _, sellBase⟩
  obtain rfl := base
  cases buyKind with
  | pumpSwap => exact pumpBuy_targets _ _ _ _
  | dlmm => exact swap2_targets _ _ _ _ _ _ _ _ _
  | cpmm => exact cpmm_targets _ _ _ _ _ _ _ _ _ _
  | whirlpool => exact whirlpool_targets _ _ _ (3 + 11) _ _ _ _

theorem sellLeg_targets (plan : Orchestrate.Plan) :
    ∃ index, (Orchestrate.sellLeg accounts plan).Targets accounts index 1 := by
  rcases plan with ⟨route, buyKind, sellKind, buyBase, sellBase⟩
  cases sellKind with
  | pumpSwap => exact ⟨_, pumpSell_targets _ _ _⟩
  | dlmm => exact ⟨_, swap2_targets _ _ _ _ _ _ _ _ _⟩
  | cpmm => exact ⟨_, cpmm_targets _ _ _ _ _ _ _ _ _ _⟩
  | whirlpool => exact ⟨_, whirlpool_targets _ _ _ (sellBase + 11) _ _ _ _⟩

end

/-! ## When the guard is enforced -/

/-- The exchange of the first leg, from the discriminator or the account list. -/
def firstKind (accounts : List AccountInfo) (data : List UInt8) : Option DexKind :=
  if data.take 8 = routePumpToDlmmDisc then some .pumpSwap
  else if data.take 8 = routeDlmmToPumpDisc then some .dlmm
  else if data.take 8 = routeDisc then Orchestrate.identifyDex accounts 3
  else none

variable {pda : FindProgramAddress} {accounts : List AccountInfo} {data : List UInt8}

/-- The legs of an accepted instruction: the first asks for the guard's amount unless it
is a DLMM leg, the second asks for one lamport or, on one route, for the guard's amount. -/
theorem prepare_targets {prepared : Prepared}
    (accepted : prepare pda accounts data = .ok prepared) :
    ∃ kind, firstKind accounts data = some kind ∧
      prepared.first.Targets accounts (buyOutputIdx kind)
        (buyMinimum kind (readAt data 24)) ∧
      ∃ index minimum, prepared.second.Targets accounts index minimum ∧
        (minimum = 1 ∨ minimum = readAt data 24) := by
  obtain ⟨disc, plan, checked, rfl⟩ | ⟨disc, plan, checked, rfl⟩ |
    ⟨disc, plan, checked, rfl⟩ := prepare_cases accepted
  · rcases RoutePumpToDlmm.check_eq_ok.mp checked with ⟨-, decoded, -, base, -⟩
    have guard : plan.route.minIntermediateMeme = readAt data 24 := decoded ▸ rfl
    refine ⟨.pumpSwap, by rw [firstKind, if_pos disc], ?_, _, _,
      swap2_targets _ _ _ _ _ _ _ _ _, .inl rfl⟩
    rw [RoutePumpToDlmm.buyLeg, base, guard]
    exact pumpBuy_targets _ _ _ _
  · rcases RouteDlmmToPump.check_eq_ok.mp checked with ⟨-, decoded, -, base, -⟩
    have guard : plan.route.minIntermediateMeme = readAt data 24 := decoded ▸ rfl
    refine ⟨.dlmm, ?_, swap2_targets _ _ _ _ _ _ _ _ _, _, _, pumpSell_targets _ _ _,
      .inr guard⟩
    rw [firstKind, disc, if_neg (by decide), if_pos rfl]
  · rcases Orchestrate.check_eq_ok.mp checked with ⟨planned, -⟩
    rcases Orchestrate.plan_eq_ok.mp planned with ⟨-, decoded, -, -, base, identified, -⟩
    have guard : plan.route.minIntermediate = readAt data 24 := decoded ▸ rfl
    obtain ⟨index, targets⟩ : ∃ index,
        (Orchestrate.sellLeg accounts plan).Targets accounts index 1 := sellLeg_targets plan
    refine ⟨plan.buyKind, ?_, guard ▸ buyLeg_targets base, index, 1, targets, .inl rfl⟩
    rw [firstKind, disc, if_neg (by decide), if_neg (by decide), if_pos rfl, identified]

/-- In every accepted run with honest exchanges, the first leg delivers at least the
intermediate minimum of the instruction data. -/
def GuardEnforced (pda : FindProgramAddress) (accounts : List AccountInfo)
    (data : List UInt8) : Prop :=
  ∀ first second ledger receipt, Honest first → Honest second →
    processInstruction pda first second accounts data ledger = .ok receipt →
      ∃ userMemeAta, accounts[2]? = some userMemeAta ∧
        (tokenAmount ledger userMemeAta.key).toNat + (readAt data 24).toNat ≤
          (tokenAmount receipt.first.after userMemeAta.key).toNat

/-- The first leg does not buy on DLMM, and a PumpSwap buy names the shared token account
in its own section; or the minimum is one, which every accepted run delivers. -/
def GuardCondition (accounts : List AccountInfo) (data : List UInt8) : Prop :=
  (readAt data 24).toNat ≤ 1 ∨
    firstKind accounts data ≠ some .dlmm ∧
      (firstKind accounts data = some .pumpSwap →
        accounts[8]?.map AccountInfo.key = accounts[2]?.map AccountInfo.key)

/-- Honest exchanges with which the instruction is accepted on some ledger. -/
def Acceptable (pda : FindProgramAddress) (accounts : List AccountInfo)
    (data : List UInt8) : Prop :=
  ∃ first second ledger receipt, Honest first ∧ Honest second ∧
    processInstruction pda first second accounts data ledger = .ok receipt

/-- The condition suffices: the first exchange is asked for the guard's amount and
delivers it into the shared token account. -/
theorem guardEnforced_of_condition (condition : GuardCondition accounts data) :
    GuardEnforced pda accounts data := by
  intro first second ledger receipt honestFirst _ accepted
  rw [processInstruction_eq] at accepted
  rcases bind_eq_ok.mp accepted with ⟨prepared, preparation, settled⟩
  rcases settled_of_settle settled with ⟨user, userSolAta, userMemeAta, received, facts⟩
  refine ⟨userMemeAta, facts.userMemeAtaAt, ?_⟩
  have memeAt : accounts[2]? = some userMemeAta := facts.userMemeAtaAt
  rcases condition with small | ⟨notDlmm, pumpSlot⟩
  · have positive := toNat_pos_iff.mpr facts.receivedPos
    rw [facts.bought]
    omega
  · rcases prepare_targets preparation with ⟨kind, kindEq, targets, -⟩
    rcases targets.built _ _ facts.firstBuilt with ⟨info, infoAt, output, minimum⟩
    rcases honestFirst _ _ _ _ facts.firstInvoked with ⟨key, keyOutput, delivered⟩
    obtain rfl : info.key = key := Option.some.inj (output.symm.trans keyOutput)
    -- both slots a first leg can deliver to hold the shared token account
    have shared : info.key = userMemeAta.key := by
      by_cases pump : kind = .pumpSwap
      · have same := pumpSlot (pump ▸ kindEq)
        rw [buyOutputIdx, if_pos pump] at infoAt
        rw [infoAt, memeAt] at same
        exact Option.some.inj same
      · rw [buyOutputIdx, if_neg pump, memeAt] at infoAt
        rw [Option.some.inj infoAt]
    have noDlmm : kind ≠ .dlmm := fun dlmm => notDlmm (dlmm ▸ kindEq)
    rw [buyMinimum, if_neg noDlmm] at minimum
    rwa [shared, minimum] at delivered

/-- The condition is necessary: when it fails, any accepted run can be changed into one
whose first exchange delivers a single token and stays honest. -/
theorem condition_of_guardEnforced (acceptable : Acceptable pda accounts data)
    (enforced : GuardEnforced pda accounts data) : GuardCondition accounts data := by
  by_contra unmet
  rcases acceptable with ⟨first, second, ledger, receipt, honestFirst, honestSecond, accepted⟩
  rw [processInstruction_eq] at accepted
  rcases bind_eq_ok.mp accepted with ⟨prepared, preparation, settled⟩
  rcases settled_of_settle settled with ⟨user, userSolAta, userMemeAta, received, facts⟩
  have memeAt : accounts[2]? = some userMemeAta := facts.userMemeAtaAt
  obtain ⟨kind, kindEq, firstTargets, index, minimum, secondTargets, minimumEq⟩ :=
    prepare_targets preparation
  simp only [GuardCondition, not_or, Nat.not_le, not_and, Classical.not_imp, kindEq,
    Option.some.injEq, memeAt, Option.map_some] at unmet
  rcases unmet with ⟨large, wrongSlot⟩
  have positive := toNat_pos_iff.mpr facts.receivedPos
  have bought := facts.bought
  -- one token more than before, which is at most what the given run received
  obtain ⟨oneMore, oneMoreValue⟩ : ∃ word : UInt64,
      word.toNat = (tokenAmount ledger userMemeAta.key).toNat + 1 :=
    exists_toNat (by have := (tokenAmount receipt.first.after userMemeAta.key).toNat_lt; omega)
  let between := withTokenAmount receipt.first.after userMemeAta.key oneMore
  have betweenMeme : tokenAmount between userMemeAta.key = oneMore :=
    withTokenAmount_self facts.memeReadableAfterBuy
  have betweenOther : ∀ key ≠ userMemeAta.key,
      tokenAmount between key = tokenAmount receipt.first.after key := fun key distinct => by
    rw [tokenAmount, tokenAmount, show between key = receipt.first.after key from
      withTokenAmount_of_ne distinct]
  -- the first exchange still honours its minimum
  have firstDelivers : Delivers receipt.first.instruction ledger between := by
    rcases firstTargets.built _ _ facts.firstBuilt with ⟨info, infoAt, output, asked⟩
    rcases honestFirst _ _ _ _ facts.firstInvoked with ⟨key, keyOutput, delivered⟩
    obtain rfl : info.key = key := Option.some.inj (output.symm.trans keyOutput)
    refine ⟨info.key, output, ?_⟩
    by_cases shared : info.key = userMemeAta.key
    · have dlmm : kind = .dlmm := by
        by_contra notDlmm
        rcases wrongSlot fun same => notDlmm (Option.some.inj same) with ⟨pump, different⟩
        rw [buyOutputIdx, if_pos pump] at infoAt
        exact different (by rw [infoAt, Option.map_some, shared])
      rw [asked, buyMinimum, if_pos dlmm, shared, betweenMeme, oneMoreValue]
      rfl
    · rwa [betweenOther _ shared]
  -- the second leg, built for one token, honours its minimum with the same outcome
  rcases secondTargets.rebuild _ _ facts.secondBuilt 1 with ⟨rebuilt, secondBuilt⟩
  have secondDelivers : Delivers rebuilt between receipt.second.after := by
    rcases secondTargets.built _ _ facts.secondBuilt with ⟨info, infoAt, output, asked⟩
    rcases secondTargets.built _ _ secondBuilt with ⟨info', infoAt', output', asked'⟩
    obtain rfl : info = info' := Option.some.inj (infoAt.symm.trans infoAt')
    rcases honestSecond _ _ _ _ facts.secondInvoked with ⟨key, keyOutput, delivered⟩
    obtain rfl : info.key = key := Option.some.inj (output.symm.trans keyOutput)
    have minimumPos : 1 ≤ minimum.toNat := by
      rcases minimumEq with rfl | rfl
      · exact le_rfl
      · omega
    have notShared : info.key ≠ userMemeAta.key := by
      intro shared
      rw [shared, facts.restored, asked, bought] at delivered
      omega
    refine ⟨info.key, output', ?_⟩
    rwa [betweenOther _ notShared, asked', ← asked]
  have replayed : processInstruction pda (conforming between)
      (conforming receipt.second.after) accounts data ledger =
        .ok ⟨⟨receipt.first.instruction, ledger, between⟩,
          ⟨rebuilt, between, receipt.second.after⟩⟩ := by
    rw [processInstruction_eq, preparation, ok_bind]
    exact settle_of_settled
      { userAt := facts.userAt
        userSolAtaAt := facts.userSolAtaAt
        userMemeAtaAt := facts.userMemeAtaAt
        solReadable := facts.solReadable
        memeReadable := facts.memeReadable
        firstBuilt := facts.firstBuilt
        firstBefore := rfl
        firstInvoked := conforming_eq_ok.mpr ⟨firstDelivers, rfl⟩
        memeReadableAfterBuy := withTokenAmount_readable facts.memeReadableAfterBuy
        bought := by rw [betweenMeme, oneMoreValue]; rfl
        receivedPos := by decide
        secondBuilt := secondBuilt
        secondBefore := rfl
        secondInvoked := conforming_eq_ok.mpr ⟨secondDelivers, rfl⟩
        solReadableAfter := facts.solReadableAfter
        profit := facts.profit
        bounded := facts.bounded
        memeReadableAfter := facts.memeReadableAfter
        restored := facts.restored }
  obtain ⟨meme, memeAt', guarded⟩ :=
    enforced _ _ _ _ (honest_conforming _) (honest_conforming _) replayed
  obtain rfl : userMemeAta = meme := Option.some.inj (memeAt.symm.trans memeAt')
  dsimp only at guarded
  rw [betweenMeme, oneMoreValue] at guarded
  omega

/-- An acceptable instruction has its guard enforced exactly when the condition holds. -/
theorem guardEnforced_iff (acceptable : Acceptable pda accounts data) :
    GuardEnforced pda accounts data ↔ GuardCondition accounts data :=
  ⟨condition_of_guardEnforced acceptable, guardEnforced_of_condition⟩

/-! ## The DLMM route without a guard -/

/-- The sample instruction, whose guard asks for 150 tokens, is accepted although the
first exchange, honestly, delivers 100. -/
theorem sample_accepted :
    (processInstruction samplePda (conforming sampleBetween) (conforming sampleAfter)
      sampleAccounts sampleData sampleBefore).isOk = true := by
  decide +kernel

/-- Where the condition fails, an acceptable instruction has no guard: the sample. -/
theorem guardEnforced_iff_sample :
    GuardEnforced samplePda sampleAccounts sampleData ↔
      GuardCondition sampleAccounts sampleData := by
  rcases exists_of_isOk sample_accepted with ⟨receipt, accepted⟩
  exact guardEnforced_iff ⟨_, _, _, receipt, honest_conforming sampleBetween,
    honest_conforming sampleAfter, accepted⟩

/-- The guard of the sample instruction is not enforced. -/
theorem not_guardEnforced_sample : ¬GuardEnforced samplePda sampleAccounts sampleData := by
  intro enforced
  rcases exists_of_isOk sample_accepted with ⟨receipt, accepted⟩
  obtain ⟨meme, memeAt, guarded⟩ := enforced _ _ _ _ (honest_conforming sampleBetween)
    (honest_conforming sampleAfter) accepted
  rw [processInstruction_eq] at accepted
  rcases bind_eq_ok.mp accepted with ⟨prepared, -, settled⟩
  rcases settled_of_settle settled with ⟨_, _, userMemeAta, _, facts⟩
  have after : receipt.first.after = sampleBetween :=
    (conforming_eq_ok.mp facts.firstInvoked).2.symm
  have key : meme.key = sampleMemeAta := by
    obtain rfl : samplePlain sampleMemeAta = meme := Option.some.inj memeAt
    rfl
  rw [after, key] at guarded
  revert guarded
  decide +kernel

end AtomicArbitrage.Program

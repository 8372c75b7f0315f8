import AtomicArbitrage.Agreement.LegacyRefinement
import AtomicArbitrage.Agreement.Wire

/-!
# Signer privileges

A program without seeds can only pass on signatures that it was given.  Four of its five
builders copy the signer flag from the account view; the Whirlpool builder writes it, and
so does the client's Whirlpool section.
-/

namespace AtomicArbitrage.Agreement

open Outcome Word64 Program

/-! ## The program's side -/

/-- A call of one of the program's five CPI builders, with all its arguments. -/
inductive CpiCall where
  | buy (pumpBase remaining : Nat) (amountIn minAmountOut : UInt64) (trackVolume : Bool)
      (userBaseAtaOverride : Option Nat)
  | sell (pumpBase remaining : Nat) (amountIn minAmountOut : UInt64)
      (userBaseAtaOverride : Option Nat)
  | swap2 (dlmmBase : Nat) (amountIn : UInt64) (tokenXMintIdx tokenYMintIdx tokenXProgramIdx
      tokenYProgramIdx userIdx userTokenInIdx userTokenOutIdx binArrayCount : Nat)
  | cpmm (cpmmBase : Nat) (amountIn minAmountOut : UInt64) (payerIdx inputMintIdx
      outputMintIdx inputAtaIdx outputAtaIdx inputTokenProgIdx outputTokenProgIdx
      memoProgramIdx : Nat)
  | whirlpool (whirlpoolBase tickArrayCount : Nat) (amountIn minAmountOut : UInt64)
      (aToB : Bool) (tokenProgAIdx tokenProgBIdx inputAtaIdx outputAtaIdx : Nat)

/-- The instruction a call builds. -/
def CpiCall.build (accounts : List AccountInfo) : CpiCall → Exec Instruction
  | buy base remaining amount minimum trackVolume override =>
      Cpi.PumpSwap.buildBuy accounts base remaining amount minimum trackVolume override
  | sell base remaining amount minimum override =>
      Cpi.PumpSwap.buildSell accounts base remaining amount minimum override
  | swap2 base amount xMint yMint xProgram yProgram user tokenIn tokenOut bins =>
      Cpi.Dlmm.buildSwap2 accounts base amount xMint yMint xProgram yProgram user tokenIn
        tokenOut bins
  | cpmm base amount minimum payer inMint outMint inAta outAta inProg outProg memo =>
      Cpi.Cpmm.buildSwap accounts base amount minimum payer inMint outMint inAta outAta inProg
        outProg memo
  | whirlpool base ticks amount minimum aToB progA progB inAta outAta =>
      Cpi.Whirlpool.buildSwap accounts base ticks amount minimum aToB progA progB inAta outAta

/-- Some account view with the key of the Whirlpool authority is a signer. -/
def AuthoritySigns (accounts : List AccountInfo) (whirlpoolBase : Nat) : Prop :=
  ∃ authority, accounts[whirlpoolBase + 1]? = some authority ∧
    ∃ info ∈ accounts, info.key = authority.key ∧ info.isSigner = true

/-- When a call flags no signer of its own. -/
def CpiCall.Entitled (accounts : List AccountInfo) : CpiCall → Prop
  | whirlpool base .. => AuthoritySigns accounts base
  | _ => True

section

variable {accounts : List AccountInfo} {instruction : Instruction}

/-- Both PumpSwap builders copy every flag, the overriding account's included. -/
theorem buildPumpSwap_signersFrom {base remaining fixedLen programRel : Nat}
    {slots : List (Nat × Bool)} {data : List UInt8} {override : Option Nat}
    (built : Cpi.PumpSwap.buildPumpSwap accounts base remaining slots fixedLen programRel data
      override = .ok instruction) : Cpi.SignersFrom accounts instruction.accounts := by
  simp only [Cpi.PumpSwap.buildPumpSwap, bind_eq_ok, pure_eq_ok] at built
  rcases built with ⟨slotted, slotsBuilt, fixed, overridden, rest, restBuilt, _, _, rfl⟩
  have slottedFrom := Cpi.metas_signersFrom slotsBuilt
  refine .append ?_ (Cpi.trailingMetas_signersFrom restBuilt)
  cases override with
  | none =>
      obtain rfl : slotted = fixed := pure_eq_ok.mp overridden
      exact slottedFrom
  | some index =>
      simp only [Cpi.PumpSwap.overrideUserBaseAta, bind_eq_ok, account_eq_ok, pure_eq_ok]
        at overridden
      rcases overridden with ⟨info, infoAt, rfl⟩
      intro reference membership signs
      rcases List.mem_or_eq_of_mem_set membership with old | rfl
      · exact slottedFrom reference old signs
      · exact ⟨info, List.mem_of_getElem? infoAt, rfl, signs⟩

theorem buildSwap2_signersFrom
    {base xMint yMint xProgram yProgram user tokenIn tokenOut bins : Nat} {amount : UInt64}
    (built : Cpi.Dlmm.buildSwap2 accounts base amount xMint yMint xProgram yProgram user
      tokenIn tokenOut bins = .ok instruction) :
    Cpi.SignersFrom accounts instruction.accounts := by
  simp only [Cpi.Dlmm.buildSwap2, bind_eq_ok, pure_eq_ok] at built
  rcases built with ⟨fixed, fixedBuilt, binArrays, binsBuilt, _, _, rfl⟩
  exact (Cpi.metas_signersFrom fixedBuilt).append (Cpi.trailingMetas_signersFrom binsBuilt)

theorem buildSwap_signersFrom
    {base payer inMint outMint inAta outAta inProg outProg memo : Nat}
    {amount minimum : UInt64}
    (built : Cpi.Cpmm.buildSwap accounts base amount minimum payer inMint outMint inAta outAta
      inProg outProg memo = .ok instruction) :
    Cpi.SignersFrom accounts instruction.accounts := by
  simp only [Cpi.Cpmm.buildSwap, bind_eq_ok, pure_eq_ok] at built
  rcases built with ⟨references, referencesBuilt, _, _, rfl⟩
  exact Cpi.metas_signersFrom referencesBuilt

/-- A Whirlpool instruction has one signer, the account at offset one of its section. -/
theorem buildWhirlpool_signer {base ticks progA inAta outAta : Nat} (progB : Nat)
    {amount minimum : UInt64} {aToB : Bool}
    (built : Cpi.Whirlpool.buildSwap accounts base ticks amount minimum aToB progA progB inAta
      outAta = .ok instruction) :
    ∃ authority, accounts[base + 1]? = some authority ∧
      ∀ reference, (reference ∈ instruction.accounts ∧ reference.isSigner = true) ↔
        reference = ⟨authority.key, true, false⟩ := by
  simp only [Cpi.Whirlpool.buildSwap, bind_eq_ok, pure_eq_ok, Cpi.Whirlpool.flagged_eq_ok]
    at built
  obtain ⟨_, ⟨_, _, rfl⟩, _, ⟨authority, authorityAt, rfl⟩, _, ⟨_, _, rfl⟩, _,
    ⟨_, _, rfl⟩, _, ⟨_, _, rfl⟩, _, ⟨_, _, rfl⟩, _, ⟨_, _, rfl⟩, tickArrays, ticksBuilt, _,
    ⟨_, _, rfl⟩, _, _, rfl⟩ := built
  have noTick : ∀ reference ∈ tickArrays, reference.isSigner = false := by
    intro reference membership
    rcases mapM_mem ticksBuilt membership with ⟨_, _, tickBuilt⟩
    rcases Cpi.Whirlpool.flagged_eq_ok.mp tickBuilt with ⟨_, _, rfl⟩
    rfl
  refine ⟨authority, authorityAt, fun reference => ⟨?_, ?_⟩⟩
  · rintro ⟨membership, signs⟩
    simp only [List.cons_append, List.nil_append, List.mem_cons, List.mem_append,
      List.not_mem_nil, or_false] at membership
    rcases membership with rfl | rfl | rfl | rfl | rfl | rfl | rfl | tick | rfl
    · cases signs
    · rfl
    · cases signs
    · cases signs
    · cases signs
    · cases signs
    · cases signs
    · rw [noTick reference tick] at signs
      cases signs
    · cases signs
  · rintro rfl
    simp

/-- A call escalates no privilege exactly when it is entitled to its signers. -/
theorem signersFrom_iff {call : CpiCall} (built : call.build accounts = .ok instruction) :
    Cpi.SignersFrom accounts instruction.accounts ↔ call.Entitled accounts := by
  cases call with
  | buy => exact iff_of_true (buildPumpSwap_signersFrom built) trivial
  | sell => exact iff_of_true (buildPumpSwap_signersFrom built) trivial
  | swap2 => exact iff_of_true (buildSwap2_signersFrom built) trivial
  | cpmm => exact iff_of_true (buildSwap_signersFrom built) trivial
  | whirlpool base ticks amount minimum aToB progA progB inAta outAta =>
      rcases buildWhirlpool_signer progB built with ⟨authority, authorityAt, only⟩
      constructor
      · intro signersFrom
        rcases (only ⟨authority.key, true, false⟩).mpr rfl with ⟨membership, signs⟩
        exact ⟨authority, authorityAt, signersFrom _ membership signs⟩
      · rintro ⟨authority', authorityAt', signer⟩
        obtain rfl : authority = authority' :=
          Option.some.inj (authorityAt.symm.trans authorityAt')
        intro reference membership signs
        obtain rfl := (only reference).mp ⟨membership, signs⟩
        exact signer

end

/-! ## The client's side -/

/-- No reference but the wallet's is flagged as a signer. -/
def OnlyWalletSigns (wallet : Pubkey) (references : List AccountMeta) : Prop :=
  ∀ reference ∈ references, reference.isSigner = true → reference.pubkey = wallet

section

variable {pda : FindProgramAddress} {wallet : Pubkey}

theorem onlyWalletSigns_append {first second : List AccountMeta} :
    OnlyWalletSigns wallet (first ++ second) ↔
      OnlyWalletSigns wallet first ∧ OnlyWalletSigns wallet second := by
  simp only [OnlyWalletSigns, List.mem_append, or_imp, forall_and]

/-- References made from addresses alone carry no signer. -/
theorem onlyWalletSigns_map (keys : List Pubkey) :
    OnlyWalletSigns wallet (keys.map fun key => .new key false) := by
  intro reference membership signs
  rcases List.mem_map.mp membership with ⟨key, -, rfl⟩
  cases signs

theorem onlyWalletSigns_pumpswapBuy {userSolAta userMemeAta memeMint solMint
    baseTokenProgram quoteTokenProgram pool : Pubkey} {poolMeta : Client.PumpSwapPoolMeta} :
    OnlyWalletSigns wallet (Client.pushPumpswapBuyAccounts pda wallet userSolAta userMemeAta
      memeMint solMint baseTokenProgram quoteTokenProgram pool poolMeta) := by
  rw [Client.pushPumpswapBuyAccounts, onlyWalletSigns_append]
  constructor
  · simp [OnlyWalletSigns, Client.pumpswapBuyFixed]
  · rw [Client.pumpswapBuyRemaining]
    split_ifs <;> simp [OnlyWalletSigns]

theorem onlyWalletSigns_pumpswapSell {userSolAta userMemeAta memeMint solMint
    baseTokenProgram quoteTokenProgram pool : Pubkey} {poolMeta : Client.PumpSwapPoolMeta} :
    OnlyWalletSigns wallet (Client.pushPumpswapSellAccounts pda wallet userSolAta userMemeAta
      memeMint solMint baseTokenProgram quoteTokenProgram pool poolMeta) := by
  rw [Client.pushPumpswapSellAccounts, onlyWalletSigns_append]
  constructor
  · simp [OnlyWalletSigns, Client.pumpswapSellFixed]
  · rw [Client.pumpswapSellRemaining]
    split_ifs <;> simp [OnlyWalletSigns]

theorem onlyWalletSigns_cpmm {pool inputMint outputMint inputAta outputAta memo token22
    config : Pubkey} :
    OnlyWalletSigns wallet (Client.pushCpmmAccounts pda pool inputMint outputMint inputAta
      outputAta memo token22 config) := by
  simp [OnlyWalletSigns, Client.pushCpmmAccounts]

theorem onlyWalletSigns_dlmm {d : Client.DlmmSectionData} :
    OnlyWalletSigns wallet (Client.pushDlmmGenericAccounts d) := by
  rw [Client.pushDlmmGenericAccounts, onlyWalletSigns_append]
  exact ⟨by simp [OnlyWalletSigns, Client.dlmmGenericFixed], onlyWalletSigns_map _⟩

/-- The Whirlpool authority as the client derives it. -/
def whirlpoolAuthority (pda : FindProgramAddress) : Pubkey :=
  pda [ascii "authority"] (.ofLiteral Client.whirlpoolProgram)

/-- A Whirlpool section flags the authority, and nothing else. -/
theorem onlyWalletSigns_whirlpool_iff {pool inputAta outputAta vaultA vaultB : Pubkey}
    {tickArrays : Pubkey × Pubkey × Pubkey} :
    OnlyWalletSigns wallet (Client.pushWhirlpoolAccounts pda pool inputAta outputAta vaultA
      vaultB tickArrays) ↔ whirlpoolAuthority pda = wallet := by
  simp [OnlyWalletSigns, Client.pushWhirlpoolAccounts, whirlpoolAuthority]

variable {args : Client.GenericArgs} {leg : Client.Section}

theorem onlyWalletSigns_buyMetas_iff :
    OnlyWalletSigns args.walletPubkey (leg.buyMetas pda args) ↔
      (leg.kind = .whirlpool → whirlpoolAuthority pda = args.walletPubkey) := by
  cases leg with
  | pumpSwap d => exact iff_of_true onlyWalletSigns_pumpswapBuy (fun other => nomatch other)
  | dlmm d => exact iff_of_true onlyWalletSigns_dlmm (fun other => nomatch other)
  | cpmm d => exact iff_of_true onlyWalletSigns_cpmm (fun other => nomatch other)
  | whirlpool d => exact onlyWalletSigns_whirlpool_iff.trans (imp_iff_right rfl).symm

theorem onlyWalletSigns_sellMetas_iff :
    OnlyWalletSigns args.walletPubkey (leg.sellMetas pda args) ↔
      (leg.kind = .whirlpool → whirlpoolAuthority pda = args.walletPubkey) := by
  cases leg with
  | pumpSwap d =>
      refine iff_of_true (onlyWalletSigns_append.mpr ⟨onlyWalletSigns_pumpswapSell, ?_⟩)
        (fun other => nomatch other)
      simp [OnlyWalletSigns]
  | dlmm d => exact iff_of_true onlyWalletSigns_dlmm (fun other => nomatch other)
  | cpmm d => exact iff_of_true onlyWalletSigns_cpmm (fun other => nomatch other)
  | whirlpool d => exact onlyWalletSigns_whirlpool_iff.trans (imp_iff_right rfl).symm

/-- A generic route flags no key but the wallet's exactly when it has no Whirlpool leg,
or when the Whirlpool authority is the wallet itself. -/
theorem buildRoute_onlyWalletSigns_iff {buy sell : Client.Section} {ix : Instruction}
    (built : Client.buildRoute pda args buy sell = .ok ix) :
    OnlyWalletSigns args.walletPubkey ix.accounts ↔
      (buy.kind = .whirlpool ∨ sell.kind = .whirlpool →
        whirlpoolAuthority pda = args.walletPubkey) := by
  rcases Client.buildRoute_eq_ok.mp built with ⟨_, _, rfl⟩
  have shared : OnlyWalletSigns args.walletPubkey args.shared := by
    simp [OnlyWalletSigns, Client.GenericArgs.shared]
  rw [onlyWalletSigns_append, onlyWalletSigns_append, onlyWalletSigns_buyMetas_iff,
    onlyWalletSigns_sellMetas_iff, or_imp]
  exact and_iff_right shared

end

section

variable {pda : FindProgramAddress} {args : Client.LegacyArgs} {ix : Instruction}
  {height : UInt64}

theorem onlyWalletSigns_shared : OnlyWalletSigns args.walletPubkey args.shared := by
  simp [OnlyWalletSigns, Client.LegacyArgs.shared]

theorem onlyWalletSigns_dlmmSection {parsed : Client.LegacyDlmm} :
    OnlyWalletSigns args.walletPubkey (args.dlmmSection pda parsed) := by
  rw [Client.LegacyArgs.dlmmSection, Client.pushDlmmAccounts, onlyWalletSigns_append]
  exact ⟨by simp [OnlyWalletSigns], onlyWalletSigns_map _⟩

theorem buildRoutePumpToDlmm_onlyWalletSigns
    (built : Client.buildRoutePumpToDlmm pda args = .ok (ix, height)) :
    OnlyWalletSigns args.walletPubkey ix.accounts := by
  rcases buildRoutePumpToDlmm_eq_ok built with ⟨parsed, -, accounts, -⟩
  rw [accounts, onlyWalletSigns_append, onlyWalletSigns_append]
  exact ⟨onlyWalletSigns_shared, onlyWalletSigns_pumpswapBuy, onlyWalletSigns_dlmmSection⟩

theorem buildRouteDlmmToPump_onlyWalletSigns
    (built : Client.buildRouteDlmmToPump pda args = .ok (ix, height)) :
    OnlyWalletSigns args.walletPubkey ix.accounts := by
  rcases buildRouteDlmmToPump_eq_ok built with ⟨parsed, -, accounts, -⟩
  rw [accounts, onlyWalletSigns_append, onlyWalletSigns_append]
  exact ⟨onlyWalletSigns_shared, onlyWalletSigns_dlmmSection, onlyWalletSigns_pumpswapSell⟩

end

/-! ## Both sides -/

/-- Privileges escalate in Whirlpool legs only.  A call of a CPI builder passes on
signatures the program was given, unless it is a Whirlpool call whose authority did not
sign; a client instruction flags the wallet alone, unless it has a Whirlpool leg whose
authority is not the wallet. -/
theorem signers_iff (accounts : List AccountInfo) (call : CpiCall) (pda : FindProgramAddress)
    (args : Client.GenericArgs) (buy sell : Client.Section) (legacy : Client.LegacyArgs) :
    (∀ instruction : Instruction, call.build accounts = .ok instruction →
      (Cpi.SignersFrom accounts instruction.accounts ↔ call.Entitled accounts)) ∧
    (∀ ix : Instruction, Client.buildRoute pda args buy sell = .ok ix →
      (OnlyWalletSigns args.walletPubkey ix.accounts ↔
        (buy.kind = .whirlpool ∨ sell.kind = .whirlpool →
          whirlpoolAuthority pda = args.walletPubkey))) ∧
    (∀ (ix : Instruction) (height : UInt64),
      Client.buildRoutePumpToDlmm pda legacy = .ok (ix, height) ∨
          Client.buildRouteDlmmToPump pda legacy = .ok (ix, height) →
        OnlyWalletSigns legacy.walletPubkey ix.accounts) := by
  refine ⟨fun _ built => signersFrom_iff built,
    fun _ built => buildRoute_onlyWalletSigns_iff built, ?_⟩
  rintro ix height (built | built)
  · exact buildRoutePumpToDlmm_onlyWalletSigns built
  · exact buildRouteDlmmToPump_onlyWalletSigns built

/-- A Whirlpool to CPMM route with one declared tick array, as it is loaded when the
wallet signs and nobody else does. -/
def sampleWhirlpoolRoute : List AccountInfo :=
  (sampleArgs.shared ++ (sampleWhirlpoolSection.buyMetas sampleDerivation.find sampleArgs ++
    [AccountMeta.new (.ofNat 51) false] ++ sampleCpmm.sellMetas sampleDerivation.find sampleArgs)).map
  fun reference =>
    { key := reference.pubkey, owner := sampleOwner reference.pubkey
      isSigner := reference.pubkey = sampleUser, isWritable := reference.isWritable }

def sampleWhirlpoolPlan : Orchestrate.Plan where
  route := .decode (Client.genericIxData sampleArgs 1 0)
  buyKind := .whirlpool
  sellKind := .cpmm
  buyBase := 3
  sellBase := 16

/-- The CPMM leg of that route passes on no signature it was not given, and a PumpSwap to
CPMM route and a legacy route flag the wallet alone. -/
theorem signers_iff_sample :
    (∃ cpi, (CpiCall.cpmm 16 1000 150 0 24 25 2 1 26 27 28).build sampleWhirlpoolRoute =
        .ok cpi ∧ Cpi.SignersFrom sampleWhirlpoolRoute cpi.accounts) ∧
    (∃ ix, Client.buildRoute sampleDerivation.find sampleArgs samplePumpSwap sampleCpmm =
        .ok ix ∧ OnlyWalletSigns sampleUser ix.accounts) ∧
    ∃ ix height, Client.buildRoutePumpToDlmm sampleDerivation.find sampleLegacyArgs =
        .ok (ix, height) ∧ OnlyWalletSigns sampleUser ix.accounts := by
  obtain ⟨cpi, called⟩ := exists_of_isOk
    (show ((CpiCall.cpmm 16 1000 150 0 24 25 2 1 26 27 28).build
      sampleWhirlpoolRoute).isOk = true by decide +kernel)
  obtain ⟨ix, built⟩ := exists_of_isOk
    (show (Client.buildRoute sampleDerivation.find sampleArgs samplePumpSwap
      sampleCpmm).isOk = true by decide +kernel)
  obtain ⟨⟨legacy, height⟩, legacyBuilt⟩ := exists_of_isOk
    (show (Client.buildRoutePumpToDlmm sampleDerivation.find sampleLegacyArgs).isOk = true by
      decide +kernel)
  have signers := signers_iff sampleWhirlpoolRoute
    (.cpmm 16 1000 150 0 24 25 2 1 26 27 28) sampleDerivation.find sampleArgs samplePumpSwap
    sampleCpmm sampleLegacyArgs
  refine ⟨⟨cpi, called, (signers.1 cpi called).mpr trivial⟩,
    ⟨ix, built, (signers.2.1 ix built).mpr ?_⟩,
    legacy, height, legacyBuilt, signers.2.2 legacy height (.inl legacyBuilt)⟩
  rintro (whirlpool | whirlpool) <;> cases whirlpool

/-- The program accepts that route and flags the Whirlpool authority, which signed
nothing; and the client flags it too. -/
theorem signers_escalate_sample :
    (Orchestrate.check sampleDerivation.find sampleWhirlpoolRoute
        (Client.genericIxData sampleArgs 1 0) = .ok sampleWhirlpoolPlan ∧
      ∃ cpi, (Orchestrate.buyLeg sampleWhirlpoolRoute sampleWhirlpoolPlan).build 1000 =
          .ok cpi ∧ ¬Cpi.SignersFrom sampleWhirlpoolRoute cpi.accounts) ∧
    ∃ ix, Client.buildRoute sampleDerivation.find sampleArgs sampleWhirlpoolSection
        sampleCpmm = .ok ix ∧ ¬OnlyWalletSigns sampleUser ix.accounts := by
  have onlyUser : ∀ info ∈ sampleWhirlpoolRoute, info.isSigner = true →
      info.key = sampleUser := by
    intro info membership signs
    rcases List.mem_map.mp membership with ⟨reference, -, rfl⟩
    exact of_decide_eq_true signs
  have notUser : (sampleWhirlpoolRoute[4]?).map AccountInfo.key ≠ some sampleUser := by
    decide +kernel
  have unsigned : ¬AuthoritySigns sampleWhirlpoolRoute 3 := by
    rintro ⟨authority, authorityAt, info, present, key, signs⟩
    rw [authorityAt, Option.map_some, ← key, onlyUser info present signs] at notUser
    exact notUser rfl
  have notWallet : whirlpoolAuthority sampleDerivation.find ≠ sampleUser := by
    decide +kernel
  constructor
  · refine ⟨by decide +kernel, ?_⟩
    obtain ⟨cpi, built⟩ := exists_of_isOk
      (show ((Orchestrate.buyLeg sampleWhirlpoolRoute sampleWhirlpoolPlan).build
        1000).isOk = true by decide +kernel)
    have called : (CpiCall.whirlpool 3 1 1000 150 true 14 14 1 2).build
        sampleWhirlpoolRoute = .ok cpi := built
    exact ⟨cpi, built, mt (signersFrom_iff called).mp unsigned⟩
  · obtain ⟨ix, built⟩ := exists_of_isOk
      (show (Client.buildRoute sampleDerivation.find sampleArgs sampleWhirlpoolSection
        sampleCpmm).isOk = true by decide +kernel)
    refine ⟨ix, built, fun onlyWallet => notWallet ?_⟩
    exact (buildRoute_onlyWalletSigns_iff built).mp onlyWallet (.inl rfl)

end AtomicArbitrage.Agreement

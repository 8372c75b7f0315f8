import AtomicArbitrage.Library.Avoids
import AtomicArbitrage.Program.Entry

/-!
# The program with machine indices

The entry point once more, with every index computed in `usize` and every slice of a byte
string cut at its bounds: a sum that does not fit and a slice beyond the end are panics, as
an account index out of range is.  It computes what the program on numbers computes.
-/

namespace AtomicArbitrage.Program.Machine

open Outcome Word64

/-- A sum of two indices. -/
def add (left right : ℕ) : Exec ℕ :=
  if left + right < 2 ^ 64 then .ok (left + right) else .error .panic

/-- `data[index]`. -/
def byte (data : List UInt8) (index : ℕ) : Exec UInt8 := orFail data[index]? .panic

/-- `u64::from_le_bytes(data[start..start + 8].try_into().unwrap())`. -/
def word (data : List UInt8) (start : ℕ) : Exec UInt64 := do
  let stop ← add start 8
  require (stop ≤ data.length) .panic
  pure (readAt data start)

/-- `accounts[base + offset]`. -/
def accountAt (accounts : List AccountInfo) (base offset : ℕ) : Exec AccountInfo := do
  let index ← add base offset
  account accounts index

/-- Compare the key at an offset, failing with the given error. -/
def expectKey (accounts : List AccountInfo) (base offset : ℕ) (key : Pubkey)
    (reason : Abort) : Exec Unit := do
  let info ← accountAt accounts base offset
  require (info.key = key) reason

/-- Compare the owner at an offset, failing with the given error. -/
def expectOwner (accounts : List AccountInfo) (base offset : ℕ) (owner : Pubkey)
    (reason : Abort) : Exec Unit := do
  let info ← accountAt accounts base offset
  require (info.owner = owner) reason

/-! ## Section validators -/

namespace DexPumpSwap

/-- `validate_section`. -/
def validateSection (pda : FindProgramAddress) (accounts : List AccountInfo)
    (base _remaining : ℕ) : Exec Unit := do
  expectKey accounts base pumpBuyProgram pumpSwapId (arbErr arbBadProgram)
  expectKey accounts base pumpBuyGlobalConfig (pda [pumpGlobalConfigSeed] pumpSwapId)
    (arbErr arbBadPda)
  expectKey accounts base pumpBuyEventAuthority (pda [pumpEventAuthSeed] pumpSwapId)
    (arbErr arbBadPda)

end DexPumpSwap

namespace DexDlmm

/-- `validate_section`. -/
def validateSection (pda : FindProgramAddress) (accounts : List AccountInfo)
    (base remaining : ℕ) : Exec Unit := do
  require (¬(remaining < 1 ∨ remaining > 6)) (arbErr arbBadAccountCount)
  expectKey accounts base dlmmProgramRel dlmmId (arbErr arbBadProgram)
  expectOwner accounts base dlmmLbPairRel dlmmId (arbErr arbBadProgram)
  let lbPair ← accountAt accounts base dlmmLbPairRel
  expectKey accounts base dlmmOracleRel (pda [dlmmOracleSeed, lbPair.key.bytes] dlmmId)
    (arbErr arbBadPda)
  expectKey accounts base dlmmMemoRel memoId (arbErr arbBadProgram)
  expectKey accounts base dlmmEventAuthRel dlmmEventAuth (arbErr arbBadProgram)

end DexDlmm

namespace DexCpmm

/-- `validate_section`. -/
def validateSection (pda : FindProgramAddress) (accounts : List AccountInfo)
    (cpmmBase _remainingCount : ℕ) : Exec Unit := do
  Program.expectKey accounts cpmmBase cpmmId (arbErr arbBadProgram)
  let _ammConfig ← accountAt accounts cpmmBase 2
  let inTokProg ← accountAt accounts cpmmBase 10
  let outTokProg ← accountAt accounts cpmmBase 11
  require (inTokProg.key = tokenId ∨ inTokProg.key = token22) (arbErr arbBadProgram)
  require (outTokProg.key = tokenId ∨ outTokProg.key = token22) (arbErr arbBadProgram)
  expectKey accounts cpmmBase 12 memoId (arbErr arbBadProgram)
  let poolState ← accountAt accounts cpmmBase 3
  expectKey accounts cpmmBase 1 (pda [cpmmAuthSeed, poolState.key.bytes] cpmmId)
    (arbErr arbBadPda)
  expectOwner accounts cpmmBase 3 cpmmId (arbErr arbBadProgram)

end DexCpmm

namespace DexWhirlpool

/-- `validate_section`. -/
def validateSection (pda : FindProgramAddress) (accounts : List AccountInfo)
    (whirlpoolBase tickArrayCount : ℕ) : Exec Unit := do
  Program.expectKey accounts whirlpoolBase whirlpoolId (arbErr arbBadProgram)
  require (¬(tickArrayCount < 1 ∨ tickArrayCount > 3)) (arbErr arbBadAccountCount)
  expectKey accounts whirlpoolBase 1 (pda [whirlpoolAuthSeed] whirlpoolId)
    (arbErr arbBadPda)
  expectOwner accounts whirlpoolBase 2 whirlpoolId (arbErr arbBadProgram)
  let whirlpoolKey ← accountAt accounts whirlpoolBase 2
  expectKey accounts whirlpoolBase 10 (pda [ascii "oracle", whirlpoolKey.key.bytes]
    whirlpoolId) (arbErr arbBadPda)
  let tokenProgram ← accountAt accounts whirlpoolBase 11
  require (tokenProgram.key = tokenId ∨ tokenProgram.key = token22) (arbErr arbBadProgram)

end DexWhirlpool

/-! ## CPI builders -/

namespace Cpi

/-- The references of a list of offsets from their bases with chosen writable flags. -/
def metas (accounts : List AccountInfo) (slots : List (ℕ × ℕ × Bool)) :
    Exec (List AccountMeta) :=
  slots.mapM fun slot => do
    let index ← add slot.1 slot.2.1
    Program.Cpi.acct accounts index slot.2.2

/-- The references of `count` accounts behind the fixed part of a section. -/
def trailingMetas (accounts : List AccountInfo) (base fixedLen count : ℕ)
    (writable : AccountInfo → Bool) : Exec (List AccountMeta) :=
  (List.range count).mapM fun i => do
    let start ← add base fixedLen
    let a ← accountAt accounts start i
    pure (Program.Cpi.asMeta a (writable a))

namespace Dlmm

/-- The sixteen fixed references of `swap2`: offsets in the section, and absolute
indices. -/
def swap2Slots (dlmmBase tokenXMintIdx tokenYMintIdx tokenXProgramIdx tokenYProgramIdx
    userIdx userTokenInIdx userTokenOutIdx : ℕ) : List (ℕ × ℕ × Bool) :=
  [(dlmmBase, dlmmLbPairRel, true),
   (dlmmBase, dlmmBitmapRel, true),
   (dlmmBase, dlmmReserveXRel, true),
   (dlmmBase, dlmmReserveYRel, true),
   (userTokenInIdx, 0, true),
   (userTokenOutIdx, 0, true),
   (tokenXMintIdx, 0, false),
   (tokenYMintIdx, 0, false),
   (dlmmBase, dlmmOracleRel, true),
   (dlmmBase, dlmmHostFeeRel, true),
   (userIdx, 0, false),
   (tokenXProgramIdx, 0, false),
   (tokenYProgramIdx, 0, false),
   (dlmmBase, dlmmMemoRel, false),
   (dlmmBase, dlmmEventAuthRel, false),
   (dlmmBase, dlmmProgramRel, false)]

/-- `build_swap2`. -/
def buildSwap2 (accounts : List AccountInfo) (dlmmBase : ℕ) (amountIn : UInt64)
    (tokenXMintIdx tokenYMintIdx tokenXProgramIdx tokenYProgramIdx : ℕ)
    (userIdx userTokenInIdx userTokenOutIdx : ℕ) (binArrayCount : ℕ) : Exec Instruction := do
  let fixed ← metas accounts (swap2Slots dlmmBase tokenXMintIdx tokenYMintIdx
    tokenXProgramIdx tokenYProgramIdx userIdx userTokenInIdx userTokenOutIdx)
  let bins ← trailingMetas accounts dlmmBase dlmmBinArraysStartRel binArrayCount
    fun _ => true
  let program ← accountAt accounts dlmmBase dlmmProgramRel
  pure { programId := program.key, accounts := fixed ++ bins
         data := Program.Cpi.Dlmm.swap2Data amountIn }

end Dlmm

namespace PumpSwap

/-- The part that `build_buy` and `build_sell` share. -/
def buildPumpSwap (accounts : List AccountInfo) (pumpBase pumpRemainingCount : ℕ)
    (slots : List (ℕ × Bool)) (fixedLen programRel : ℕ) (data : List UInt8)
    (userBaseAtaOverride : Option ℕ) : Exec Instruction := do
  let fixed ← metas accounts (slots.map fun slot => (pumpBase, slot.1, slot.2))
  let fixed ← Program.Cpi.PumpSwap.overrideUserBaseAta accounts fixed userBaseAtaOverride
  let remaining ← trailingMetas accounts pumpBase fixedLen pumpRemainingCount
    AccountInfo.isWritable
  let program ← accountAt accounts pumpBase programRel
  pure { programId := program.key, accounts := fixed ++ remaining, data }

/-- `build_buy`. -/
def buildBuy (accounts : List AccountInfo) (pumpBase pumpRemainingCount : ℕ)
    (amountIn minAmountOut : UInt64) (trackVolume : Bool)
    (userBaseAtaOverride : Option ℕ) : Exec Instruction :=
  buildPumpSwap accounts pumpBase pumpRemainingCount Program.Cpi.PumpSwap.buySlots
    pumpBuyFixedLen pumpBuyProgram
    (Program.Cpi.PumpSwap.buyData amountIn minAmountOut trackVolume) userBaseAtaOverride

/-- `build_sell`. -/
def buildSell (accounts : List AccountInfo) (pumpBase pumpRemainingCount : ℕ)
    (amountIn minAmountOut : UInt64) (userBaseAtaOverride : Option ℕ) :
    Exec Instruction :=
  buildPumpSwap accounts pumpBase pumpRemainingCount Program.Cpi.PumpSwap.sellSlots
    pumpSellFixedLen pumpSellProgram
    (Program.Cpi.PumpSwap.sellData amountIn minAmountOut) userBaseAtaOverride

end PumpSwap

namespace Cpmm

def swapSlots (cpmmBase payerIdx inputMintIdx outputMintIdx inputAtaIdx outputAtaIdx
    inputTokenProgIdx outputTokenProgIdx memoProgramIdx : ℕ) : List (ℕ × ℕ × Bool) :=
  [(payerIdx, 0, true),
   (cpmmBase, 1, false),
   (cpmmBase, 2, false),
   (cpmmBase, 3, true),
   (inputAtaIdx, 0, true),
   (outputAtaIdx, 0, true),
   (cpmmBase, 6, true),
   (cpmmBase, 7, true),
   (inputMintIdx, 0, false),
   (outputMintIdx, 0, false),
   (inputTokenProgIdx, 0, false),
   (outputTokenProgIdx, 0, false),
   (memoProgramIdx, 0, false)]

/-- `build_swap`. -/
def buildSwap (accounts : List AccountInfo) (cpmmBase : ℕ)
    (amountIn minAmountOut : UInt64) (payerIdx inputMintIdx outputMintIdx : ℕ)
    (inputAtaIdx outputAtaIdx : ℕ)
    (inputTokenProgIdx outputTokenProgIdx memoProgramIdx : ℕ) : Exec Instruction := do
  let references ← metas accounts (swapSlots cpmmBase payerIdx inputMintIdx outputMintIdx
    inputAtaIdx outputAtaIdx inputTokenProgIdx outputTokenProgIdx memoProgramIdx)
  let program ← account accounts cpmmBase
  pure { programId := program.key, accounts := references
         data := Program.Cpi.Cpmm.swapData amountIn minAmountOut }

end Cpmm

namespace Whirlpool

/-- A Whirlpool reference at an offset. -/
def flagged (accounts : List AccountInfo) (base offset : ℕ) (isSigner writable : Bool) :
    Exec AccountMeta := do
  let index ← add base offset
  Program.Cpi.Whirlpool.flagged accounts index isSigner writable

/-- `build_swap`. -/
def buildSwap (accounts : List AccountInfo) (whirlpoolBase tickArrayCount : ℕ)
    (amountIn minAmountOut : UInt64) (aToB : Bool) (tokenProgAIdx _tokenProgBIdx : ℕ)
    (inputAtaIdx outputAtaIdx : ℕ) : Exec Instruction := do
  let tokenProgram ← Program.Cpi.Whirlpool.flagged accounts tokenProgAIdx false false
  let tokenAuthority ← flagged accounts whirlpoolBase 1 true false
  let whirlpool ← flagged accounts whirlpoolBase 2 false true
  let tokenOwnerA ← Program.Cpi.Whirlpool.flagged accounts inputAtaIdx false true
  let vaultA ← flagged accounts whirlpoolBase 4 false true
  let tokenOwnerB ← Program.Cpi.Whirlpool.flagged accounts outputAtaIdx false true
  let vaultB ← flagged accounts whirlpoolBase 6 false true
  let tickArrays ← (List.range (min tickArrayCount 3)).mapM fun i => do
    let start ← add whirlpoolBase 7
    flagged accounts start i false true
  let oracle ← flagged accounts whirlpoolBase 10 false false
  let program ← account accounts whirlpoolBase
  pure { programId := program.key
         accounts := [tokenProgram, tokenAuthority, whirlpool, tokenOwnerA, vaultA,
           tokenOwnerB, vaultB] ++ tickArrays ++ [oracle]
         data := Program.Cpi.Whirlpool.swapData amountIn minAmountOut aToB }

end Whirlpool

end Cpi

/-! ## Balances -/

/-- `read_token_amount`. -/
def readTokenAmount (ledger : Ledger) (account : AccountInfo) : Exec UInt64 := do
  let data := (ledger account.key).data
  require (¬data.length < 72) (.error .invalidAccountData)
  word data 64

/-- `aggregate_sol_balance`. -/
def aggregateSolBalance (ledger : Ledger) (userWallet userWsolAta : AccountInfo) :
    Exec UInt64 := do
  let native := (ledger userWallet.key).lamports
  let wsol ← readTokenAmount ledger userWsolAta
  orFail (checkedAdd native wsol) (.error .arithmeticOverflow)

/-- From the balance snapshots to the post-CPI invariants. -/
def settle (accounts : List AccountInfo) (amountIn minProfit : UInt64) (first second : Leg)
    (firstEffect secondEffect : CpiEffect) (ledger : Ledger) : Exec Receipt := do
  let user ← account accounts userIdx
  let userSolAta ← account accounts userSolAtaIdx
  let preAggregate ← aggregateSolBalance ledger user userSolAta
  let userMemeAta ← account accounts userMemeAtaIdx
  let memeBefore ← readTokenAmount ledger userMemeAta
  let bought ← first.run firstEffect accounts amountIn ledger
  let memeAfterBuy ← readTokenAmount bought.after userMemeAta
  let memeReceived ← orFail (checkedSub memeAfterBuy memeBefore) (arbErr arbNegativeNet)
  require (memeReceived ≠ 0) (arbErr arbZeroAmount)
  let sold ← second.run secondEffect accounts memeReceived bought.after
  let postAggregate ← aggregateSolBalance sold.after user userSolAta
  let netSol ← orFail (checkedSub postAggregate preAggregate) (arbErr arbNegativeNet)
  require (minProfit ≤ netSol) (arbErr arbInsufficientProfit)
  let memeAfter ← readTokenAmount sold.after userMemeAta
  require (memeAfter = memeBefore) (arbErr arbResidualMeme)
  pure { first := bought, second := sold }

/-! ## The legacy routes -/

/-- Step 1 of both legacy handlers. -/
def parseLegacy (data : List UInt8) : Exec LegacyData := do
  require (data.length = ixDataLen) (.error .invalidInstructionData)
  let amountIn ← word data offAmountIn
  let minProfitLamports ← word data offMinProfit
  let minIntermediateMeme ← word data offMinIntermediate
  let trackVolume ← byte data offTrackVolume
  let dlmmSolIsX ← byte data offDlmmSolIsX
  let pumpRemainingCount ← byte data offPumpRemaining
  let dlmmBinArrayCount ← byte data offDlmmBinArrayCount
  pure { amountIn, minProfitLamports, minIntermediateMeme
         trackVolume := trackVolume != 0
         dlmmSolIsX := dlmmSolIsX != 0
         pumpRemainingCount := pumpRemainingCount.toNat
         dlmmBinArrayCount := dlmmBinArrayCount.toNat }

namespace RoutePumpToDlmm

/-- Steps 1 and 2. -/
def check (pda : FindProgramAddress) (accounts : List AccountInfo) (data : List UInt8) :
    Exec LegacyPlan := do
  let route ← parseLegacy data
  route.validate
  let pumpBase := sharedFixedLen
  let pumpLen ← add pumpBuyFixedLen route.pumpRemainingCount
  let dlmmBase ← add pumpBase pumpLen
  let dlmmEnd ← add dlmmBase dlmmFixedLen
  let totalExpected ← add dlmmEnd route.dlmmBinArrayCount
  require (¬accounts.length < totalExpected) (arbErr arbBadAccountCount)
  expectKey accounts pumpBase pumpBuyProgram pumpSwapId (arbErr arbBadProgram)
  expectKey accounts dlmmBase dlmmProgramRel dlmmId (arbErr arbBadProgram)
  expectKey accounts pumpBase pumpBuyQuoteMint nativeSolMint (arbErr arbBadMint)
  expectKey accounts pumpBase pumpBuyQuoteTokenProgram tokenId (arbErr arbBadProgram)
  expectKey accounts pumpBase pumpBuySystemProgram systemId (arbErr arbBadProgram)
  expectKey accounts pumpBase pumpBuyAtaProgram ataId (arbErr arbBadProgram)
  expectKey accounts pumpBase pumpBuyFeeProgram feeProgramId (arbErr arbBadProgram)
  let user ← account accounts userIdx
  require (user.isSigner = true) (.error .missingRequiredSignature)
  expectKey accounts pumpBase pumpBuyEventAuthority (pda [pumpEventAuthSeed] pumpSwapId)
    (arbErr arbBadPda)
  expectKey accounts pumpBase pumpBuyGlobalConfig (pda [pumpGlobalConfigSeed] pumpSwapId)
    (arbErr arbBadPda)
  expectKey accounts pumpBase pumpBuyFeeConfig
    (pda [pumpFeeConfigSeed, pumpSwapId.bytes] feeProgramId) (arbErr arbBadPda)
  expectKey accounts dlmmBase dlmmEventAuthRel dlmmEventAuth (arbErr arbBadProgram)
  expectKey accounts dlmmBase dlmmMemoRel memoId (arbErr arbBadProgram)
  let lbPair ← accountAt accounts dlmmBase dlmmLbPairRel
  expectKey accounts dlmmBase dlmmOracleRel
    (pda [dlmmOracleSeed, lbPair.key.bytes] dlmmId) (arbErr arbBadPda)
  pure { route, pumpBase, dlmmBase }

def buyLeg (accounts : List AccountInfo) (plan : LegacyPlan) : Leg where
  build amountIn :=
    Cpi.PumpSwap.buildBuy accounts plan.pumpBase plan.route.pumpRemainingCount amountIn
      plan.route.minIntermediateMeme plan.route.trackVolume none
  failure := arbPumpCpiFailed

def sellLeg (accounts : List AccountInfo) (plan : LegacyPlan) : Leg where
  build memeReceived := do
    let quoteProg ← add plan.pumpBase pumpBuyQuoteTokenProgram
    let memeTpIdx ← add plan.pumpBase pumpBuyBaseTokenProgram
    let quoteMint ← add plan.pumpBase pumpBuyQuoteMint
    let baseMint ← add plan.pumpBase pumpBuyBaseMint
    let solIsX := plan.route.dlmmSolIsX
    Cpi.Dlmm.buildSwap2 accounts plan.dlmmBase memeReceived
      (if solIsX then quoteMint else baseMint) (if solIsX then baseMint else quoteMint)
      (if solIsX then quoteProg else memeTpIdx) (if solIsX then memeTpIdx else quoteProg)
      userIdx userMemeAtaIdx userSolAtaIdx plan.route.dlmmBinArrayCount
  failure := arbDlmmCpiFailed

/-- `route_pump_to_dlmm::handle`. -/
def handle (pda : FindProgramAddress) (buy sell : CpiEffect) (accounts : List AccountInfo)
    (data : List UInt8) (ledger : Ledger) : Exec Receipt := do
  let plan ← check pda accounts data
  settle accounts plan.route.amountIn plan.route.minProfitLamports (buyLeg accounts plan)
    (sellLeg accounts plan) buy sell ledger

end RoutePumpToDlmm

namespace RouteDlmmToPump

/-- Steps 1 and 2. -/
def check (pda : FindProgramAddress) (accounts : List AccountInfo) (data : List UInt8) :
    Exec LegacyPlan := do
  let route ← parseLegacy data
  route.validate
  let dlmmBase := sharedFixedLen
  let dlmmEnd ← add dlmmBase dlmmFixedLen
  let pumpSellBase ← add dlmmEnd route.dlmmBinArrayCount
  let pumpSellEnd ← add pumpSellBase pumpSellFixedLen
  let totalExpected ← add pumpSellEnd route.pumpRemainingCount
  require (¬accounts.length < totalExpected) (arbErr arbBadAccountCount)
  expectKey accounts dlmmBase dlmmProgramRel dlmmId (arbErr arbBadProgram)
  expectKey accounts pumpSellBase pumpSellProgram pumpSwapId (arbErr arbBadProgram)
  expectKey accounts pumpSellBase pumpSellQuoteMint nativeSolMint (arbErr arbBadMint)
  expectKey accounts pumpSellBase pumpSellQuoteTokenProgram tokenId (arbErr arbBadProgram)
  expectKey accounts pumpSellBase pumpSellSystemProgram systemId (arbErr arbBadProgram)
  expectKey accounts pumpSellBase pumpSellAtaProgram ataId (arbErr arbBadProgram)
  expectKey accounts pumpSellBase pumpSellFeeProgram feeProgramId (arbErr arbBadProgram)
  let user ← account accounts userIdx
  require (user.isSigner = true) (.error .missingRequiredSignature)
  expectKey accounts dlmmBase dlmmEventAuthRel dlmmEventAuth (arbErr arbBadProgram)
  expectKey accounts dlmmBase dlmmMemoRel memoId (arbErr arbBadProgram)
  let lbPair ← accountAt accounts dlmmBase dlmmLbPairRel
  expectKey accounts dlmmBase dlmmOracleRel
    (pda [dlmmOracleSeed, lbPair.key.bytes] dlmmId) (arbErr arbBadPda)
  expectKey accounts pumpSellBase pumpSellEventAuthority
    (pda [pumpEventAuthSeed] pumpSwapId) (arbErr arbBadPda)
  expectKey accounts pumpSellBase pumpSellGlobalConfig
    (pda [pumpGlobalConfigSeed] pumpSwapId) (arbErr arbBadPda)
  expectKey accounts pumpSellBase pumpSellFeeConfig
    (pda [pumpFeeConfigSeed, pumpSwapId.bytes] feeProgramId) (arbErr arbBadPda)
  pure { route, pumpBase := pumpSellBase, dlmmBase }

def buyLeg (accounts : List AccountInfo) (plan : LegacyPlan) : Leg where
  build amountIn := do
    let quoteProg ← add plan.pumpBase pumpSellQuoteTokenProgram
    let memeTpIdx ← add plan.pumpBase pumpSellBaseTokenProgram
    let quoteMint ← add plan.pumpBase pumpSellQuoteMint
    let baseMint ← add plan.pumpBase pumpSellBaseMint
    let solIsX := plan.route.dlmmSolIsX
    Cpi.Dlmm.buildSwap2 accounts plan.dlmmBase amountIn
      (if solIsX then quoteMint else baseMint) (if solIsX then baseMint else quoteMint)
      (if solIsX then quoteProg else memeTpIdx) (if solIsX then memeTpIdx else quoteProg)
      userIdx userSolAtaIdx userMemeAtaIdx plan.route.dlmmBinArrayCount
  failure := arbDlmmCpiFailed

def sellLeg (accounts : List AccountInfo) (plan : LegacyPlan) : Leg where
  build memeReceived :=
    Cpi.PumpSwap.buildSell accounts plan.pumpBase plan.route.pumpRemainingCount
      memeReceived plan.route.minIntermediateMeme none
  failure := arbPumpCpiFailed

/-- `route_dlmm_to_pump::handle`. -/
def handle (pda : FindProgramAddress) (buy sell : CpiEffect) (accounts : List AccountInfo)
    (data : List UInt8) (ledger : Ledger) : Exec Receipt := do
  let plan ← check pda accounts data
  settle accounts plan.route.amountIn plan.route.minProfitLamports (buyLeg accounts plan)
    (sellLeg accounts plan) buy sell ledger

end RouteDlmmToPump

/-! ## The generic route -/

namespace Orchestrate

open Program.Orchestrate (RouteData Plan cpiFailed)

/-- Step 1: parse the instruction data. -/
def parse (data : List UInt8) : Exec RouteData := do
  require (data.length = ixDataLen) (.error .invalidInstructionData)
  let amountIn ← word data offAmountIn
  let minProfit ← word data offMinProfit
  let minIntermediate ← word data offMinIntermediate
  let trackVolume ← byte data offTrackVolume
  let buyIsSol ← byte data offDlmmSolIsX
  let buyRemaining ← byte data offBuyRemaining
  let sellRemaining ← byte data offSellRemaining
  pure { amountIn, minProfit, minIntermediate
         trackVolume := trackVolume != 0
         buyIsSol := buyIsSol != 0
         buyRemaining := buyRemaining.toNat
         sellRemaining := sellRemaining.toNat }

/-- `identify_dex`. -/
def identifyDex (accounts : List AccountInfo) (base : ℕ) : Exec (Option DexKind) :=
  if base ≥ accounts.length then pure none
  else do
    let first ← account accounts base
    match DexKind.fromProgramId first.key with
    | some kind => pure (some kind)
    | none =>
        let probe ← add base 16
        if probe ≥ accounts.length then pure none
        else do
          let second ← account accounts probe
          pure (DexKind.fromProgramId second.key)

/-- Steps 1 to 3. -/
def plan (accounts : List AccountInfo) (data : List UInt8) : Exec Plan := do
  let route ← parse data
  require (¬(route.amountIn = 0 ∨ route.minProfit = 0)) (arbErr arbZeroAmount)
  let buyBase := sharedFixedLen
  let bought ← identifyDex accounts buyBase
  let buyKind ← orFail bought (arbErr arbUnknownDexPair)
  let buyDexLen ← add buyKind.fixedLen route.buyRemaining
  let sellBase ← add buyBase buyDexLen
  let sold ← identifyDex accounts sellBase
  let sellKind ← orFail sold (arbErr arbUnknownDexPair)
  require (buyKind ≠ sellKind) (arbErr arbUnknownDexPair)
  let sellEnd ← add sellBase sellKind.fixedLen
  let totalExpected ← add sellEnd route.sellRemaining
  require (¬accounts.length < totalExpected) (arbErr arbBadAccountCount)
  pure { route, buyKind, sellKind, buyBase, sellBase }

/-- `validate_dex_section`. -/
def validateDexSection (pda : FindProgramAddress) (accounts : List AccountInfo)
    (kind : DexKind) (base remaining : ℕ) : Exec Unit :=
  match kind with
  | .pumpSwap => DexPumpSwap.validateSection pda accounts base remaining
  | .dlmm => DexDlmm.validateSection pda accounts base remaining
  | .cpmm => DexCpmm.validateSection pda accounts base remaining
  | .whirlpool => DexWhirlpool.validateSection pda accounts base remaining

/-- Steps 1 to 5. -/
def check (pda : FindProgramAddress) (accounts : List AccountInfo) (data : List UInt8) :
    Exec Plan := do
  let plan ← plan accounts data
  let user ← account accounts userIdx
  require (user.isSigner = true) (.error .missingRequiredSignature)
  validateDexSection pda accounts plan.buyKind plan.buyBase plan.route.buyRemaining
  validateDexSection pda accounts plan.sellKind plan.sellBase plan.route.sellRemaining
  pure plan

/-- A swap on one of the four exchanges, from the account at `inputIdx` to the account at
`outputIdx`.  The two legs differ in the PumpSwap builder and in the Whirlpool direction. -/
def legCpi (accounts : List AccountInfo) (kind : DexKind) (base remaining : ℕ)
    (amountIn minOut : UInt64) (pumpSwap : Exec Instruction) (aToB : Bool)
    (inputIdx outputIdx : ℕ) : Exec Instruction :=
  match kind with
  | .pumpSwap => pumpSwap
  | .dlmm => do
      let xMint ← add base Program.DexDlmm.dlmmTokenXMintOff
      let yMint ← add base Program.DexDlmm.dlmmTokenYMintOff
      let xProg ← add base Program.DexDlmm.dlmmTokenXProgOff
      let yProg ← add base Program.DexDlmm.dlmmTokenYProgOff
      Cpi.Dlmm.buildSwap2 accounts base amountIn xMint yMint xProg yProg userIdx inputIdx
        outputIdx remaining
  | .cpmm => do
      let inputMint ← add base 8
      let outputMint ← add base 9
      let inputProg ← add base 10
      let outputProg ← add base 11
      let memo ← add base 12
      Cpi.Cpmm.buildSwap accounts base amountIn minOut userIdx inputMint outputMint inputIdx
        outputIdx inputProg outputProg memo
  | .whirlpool => do
      let tokenProg ← add base Program.DexWhirlpool.whirlpoolTokenProgOff
      Cpi.Whirlpool.buildSwap accounts base remaining amountIn minOut aToB tokenProg
        tokenProg inputIdx outputIdx

/-- The instruction that `execute_buy_leg` invokes. -/
def buyCpi (accounts : List AccountInfo) (kind : DexKind) (base remaining : ℕ)
    (amountIn minMemeOut : UInt64) : Exec Instruction :=
  legCpi accounts kind base remaining amountIn minMemeOut
    (Cpi.PumpSwap.buildBuy accounts base remaining amountIn minMemeOut false none) true
    userSolAtaIdx userMemeAtaIdx

/-- The instruction that `execute_sell_leg` invokes. -/
def sellCpi (accounts : List AccountInfo) (kind : DexKind) (base remaining : ℕ)
    (amountIn minSolOut : UInt64) : Exec Instruction :=
  legCpi accounts kind base remaining amountIn minSolOut
    (Cpi.PumpSwap.buildSell accounts base remaining amountIn minSolOut none) false
    userMemeAtaIdx userSolAtaIdx

def buyLeg (accounts : List AccountInfo) (plan : Plan) : Leg where
  build amountIn := buyCpi accounts plan.buyKind plan.buyBase plan.route.buyRemaining
    amountIn plan.route.minIntermediate
  failure := cpiFailed plan.buyKind

def sellLeg (accounts : List AccountInfo) (plan : Plan) : Leg where
  build amountIn := sellCpi accounts plan.sellKind plan.sellBase plan.route.sellRemaining
    amountIn 1
  failure := cpiFailed plan.sellKind

/-- `orchestrate::handle`. -/
def handle (pda : FindProgramAddress) (buy sell : CpiEffect) (accounts : List AccountInfo)
    (data : List UInt8) (ledger : Ledger) : Exec Receipt := do
  let plan ← check pda accounts data
  settle accounts plan.route.amountIn plan.route.minProfit (buyLeg accounts plan)
    (sellLeg accounts plan) buy sell ledger

end Orchestrate

/-- The first eight bytes, `data[..8].try_into().unwrap()`. -/
def discriminator (data : List UInt8) : Exec (List UInt8) := do
  require (8 ≤ data.length) .panic
  pure (data.take 8)

/-- `process_instruction`. -/
def processInstruction (pda : FindProgramAddress) (first second : CpiEffect)
    (accounts : List AccountInfo) (data : List UInt8) (ledger : Ledger) : Exec Receipt := do
  require (¬data.length < 8) (.error .invalidInstructionData)
  let disc ← discriminator data
  if disc = routePumpToDlmmDisc then
    RoutePumpToDlmm.handle pda first second accounts data ledger
  else if disc = routeDlmmToPumpDisc then
    RouteDlmmToPump.handle pda first second accounts data ledger
  else if disc = routeDisc then
    Orchestrate.handle pda first second accounts data ledger
  else
    .error (arbErr arbBadDiscriminator)

end AtomicArbitrage.Program.Machine

import AtomicArbitrage.Program.Sections
import AtomicArbitrage.Program.Settlement

/-!
# The two PumpSwap and DLMM routes

`route_pump_to_dlmm` and `route_dlmm_to_pump` share their data layout and most of their
checks, but keep their own order of checks and their own offsets.  Each is `check`,
everything before the first balance read, followed by the common settlement.
-/

namespace AtomicArbitrage.Program

open Outcome Word64

/-- The thirty-six bytes of both legacy routes. -/
structure LegacyData where
  amountIn : UInt64
  minProfitLamports : UInt64
  minIntermediateMeme : UInt64
  trackVolume : Bool
  dlmmSolIsX : Bool
  pumpRemainingCount : Nat
  dlmmBinArrayCount : Nat
deriving DecidableEq

namespace LegacyData

/-- The fields at their fixed offsets. -/
def decode (data : List UInt8) : LegacyData where
  amountIn := readAt data offAmountIn
  minProfitLamports := readAt data offMinProfit
  minIntermediateMeme := readAt data offMinIntermediate
  trackVolume := data.getD offTrackVolume 0 != 0
  dlmmSolIsX := data.getD offDlmmSolIsX 0 != 0
  pumpRemainingCount := (data.getD offPumpRemaining 0).toNat
  dlmmBinArrayCount := (data.getD offDlmmBinArrayCount 0).toNat

/-- Step 1 of both handlers: parse the instruction data. -/
def parse (data : List UInt8) : Exec LegacyData := do
  require (data.length = ixDataLen) (.error .invalidInstructionData)
  pure (decode data)

/-- The range checks on the parsed data, which come before any account is read. -/
def validate (route : LegacyData) : Exec Unit := do
  require (¬(route.amountIn = 0 ∨ route.minProfitLamports = 0)) (arbErr arbZeroAmount)
  require (¬(route.pumpRemainingCount > 5 ∨
    ¬(1 ≤ route.dlmmBinArrayCount ∧ route.dlmmBinArrayCount ≤ 6)))
    (arbErr arbBadAccountCount)

theorem parse_eq_ok {data : List UInt8} {route : LegacyData} :
    parse data = .ok route ↔ data.length = 36 ∧ decode data = route := by
  simp only [parse, bind_eq_ok, require_eq_ok, pure_eq_ok, exists_and_left, exists_const]
  rfl

/-- The amounts and counts that both handlers accept. -/
structure Valid (route : LegacyData) : Prop where
  amountIn : route.amountIn ≠ 0
  minProfit : route.minProfitLamports ≠ 0
  pumpRemaining : route.pumpRemainingCount ≤ 5
  binArraysPos : 1 ≤ route.dlmmBinArrayCount
  binArraysLe : route.dlmmBinArrayCount ≤ 6

theorem validate_eq_ok {route : LegacyData} {value : Unit} :
    route.validate = .ok value ↔ route.Valid := by
  simp only [validate, bind_eq_ok, require_eq_ok, exists_and_left, exists_const]
  constructor
  · rintro ⟨amounts, counts⟩
    exact ⟨by tauto, by tauto, by omega, by omega, by omega⟩
  · rintro ⟨amountIn, minProfit, pumpRemaining, binArraysPos, binArraysLe⟩
    exact ⟨by tauto, by omega⟩

/-- A zero amount or a zero profit demand is refused before anything else is looked at. -/
theorem validate_zeroAmount {route : LegacyData}
    (zero : route.amountIn = 0 ∨ route.minProfitLamports = 0) :
    route.validate = .error (arbErr arbZeroAmount) := by
  rw [validate, require_of_not (not_not.mpr zero)]
  rfl

end LegacyData

/-- The parsed data with the bases of the two sections. -/
structure LegacyPlan where
  route : LegacyData
  pumpBase : Nat
  dlmmBase : Nat
deriving DecidableEq

/-- What both handlers check about the accounts, with the fee offsets of their own
PumpSwap section.  The two differ in the order of the checks only. -/
structure LegacyChecked (pda : FindProgramAddress) (accounts : List AccountInfo)
    (pumpBase dlmmBase feeConfig feeProgram : Nat) : Prop where
  pumpProgram : KeyAt accounts (pumpBase + 16) pumpSwapId
  dlmmProgram : KeyAt accounts dlmmBase dlmmId
  quoteMint : KeyAt accounts (pumpBase + 4) nativeSolMint
  quoteTokenProgram : KeyAt accounts (pumpBase + 12) tokenId
  systemProgram : KeyAt accounts (pumpBase + 13) systemId
  ataProgram : KeyAt accounts (pumpBase + 14) ataId
  feeProgram : KeyAt accounts (pumpBase + feeProgram) feeProgramId
  user : ∃ user, accounts[0]? = some user ∧ user.isSigner = true
  pumpEventAuthority :
    KeyAt accounts (pumpBase + 15) (pda [pumpEventAuthSeed] pumpSwapId)
  globalConfig : KeyAt accounts (pumpBase + 2) (pda [pumpGlobalConfigSeed] pumpSwapId)
  feeConfig : KeyAt accounts (pumpBase + feeConfig)
    (pda [pumpFeeConfigSeed, pumpSwapId.bytes] feeProgramId)
  dlmmEventAuthority : KeyAt accounts (dlmmBase + 8) dlmmEventAuth
  memo : KeyAt accounts (dlmmBase + 7) memoId
  oracle : ∃ lbPair, accounts[dlmmBase + 1]? = some lbPair ∧
    KeyAt accounts (dlmmBase + 5) (pda [dlmmOracleSeed, lbPair.key.bytes] dlmmId)

/-! ## PumpSwap buy, then DLMM sell -/

namespace RoutePumpToDlmm

/-- Steps 1 and 2: parse and run every check before the balance snapshots. -/
def check (pda : FindProgramAddress) (accounts : List AccountInfo) (data : List UInt8) :
    Exec LegacyPlan := do
  let route ← LegacyData.parse data
  route.validate
  let pumpBase := sharedFixedLen
  let pumpLen := pumpBuyFixedLen + route.pumpRemainingCount
  let dlmmBase := pumpBase + pumpLen
  let totalExpected := dlmmBase + dlmmFixedLen + route.dlmmBinArrayCount
  require (¬accounts.length < totalExpected) (arbErr arbBadAccountCount)
  expectKey accounts (pumpBase + pumpBuyProgram) pumpSwapId (arbErr arbBadProgram)
  expectKey accounts (dlmmBase + dlmmProgramRel) dlmmId (arbErr arbBadProgram)
  expectKey accounts (pumpBase + pumpBuyQuoteMint) nativeSolMint (arbErr arbBadMint)
  expectKey accounts (pumpBase + pumpBuyQuoteTokenProgram) tokenId (arbErr arbBadProgram)
  expectKey accounts (pumpBase + pumpBuySystemProgram) systemId (arbErr arbBadProgram)
  expectKey accounts (pumpBase + pumpBuyAtaProgram) ataId (arbErr arbBadProgram)
  expectKey accounts (pumpBase + pumpBuyFeeProgram) feeProgramId (arbErr arbBadProgram)
  let user ← account accounts userIdx
  require (user.isSigner = true) (.error .missingRequiredSignature)
  expectKey accounts (pumpBase + pumpBuyEventAuthority)
    (pda [pumpEventAuthSeed] pumpSwapId) (arbErr arbBadPda)
  expectKey accounts (pumpBase + pumpBuyGlobalConfig)
    (pda [pumpGlobalConfigSeed] pumpSwapId) (arbErr arbBadPda)
  expectKey accounts (pumpBase + pumpBuyFeeConfig)
    (pda [pumpFeeConfigSeed, pumpSwapId.bytes] feeProgramId) (arbErr arbBadPda)
  expectKey accounts (dlmmBase + dlmmEventAuthRel) dlmmEventAuth (arbErr arbBadProgram)
  expectKey accounts (dlmmBase + dlmmMemoRel) memoId (arbErr arbBadProgram)
  let lbPair ← account accounts (dlmmBase + dlmmLbPairRel)
  expectKey accounts (dlmmBase + dlmmOracleRel)
    (pda [dlmmOracleSeed, lbPair.key.bytes] dlmmId) (arbErr arbBadPda)
  pure { route, pumpBase, dlmmBase }

theorem check_eq_ok {pda : FindProgramAddress} {accounts : List AccountInfo}
    {data : List UInt8} {plan : LegacyPlan} :
    check pda accounts data = .ok plan ↔
      data.length = 36 ∧ LegacyData.decode data = plan.route ∧ plan.route.Valid ∧
        plan.pumpBase = 3 ∧ plan.dlmmBase = 3 + (23 + plan.route.pumpRemainingCount) ∧
        plan.dlmmBase + 9 + plan.route.dlmmBinArrayCount ≤ accounts.length ∧
        LegacyChecked pda accounts plan.pumpBase plan.dlmmBase 21 22 := by
  rcases plan with ⟨route, pumpBase, dlmmBase⟩
  simp only [check, bind_eq_ok, LegacyData.parse_eq_ok, LegacyData.validate_eq_ok,
    require_eq_ok, expectKey_eq_ok, account_eq_ok, pure_eq_ok, exists_and_left, exists_const,
    LegacyPlan.mk.injEq]
  constructor
  · rintro ⟨_, ⟨size, rfl⟩, valid, count, pumpProgram, dlmmProgram, quoteMint,
      quoteTokenProgram, systemProgram, ataProgram, feeProgram, user, userAt, signer,
      pumpEventAuthority, globalConfig, feeConfig, dlmmEventAuthority, memo, lbPair,
      lbPairAt, oracle, rfl, rfl, rfl⟩
    exact ⟨size, rfl, valid, rfl, rfl, Nat.not_lt.mp count,
      { pumpProgram, dlmmProgram, quoteMint, quoteTokenProgram, systemProgram, ataProgram
        feeProgram, user := ⟨user, userAt, signer⟩, pumpEventAuthority, globalConfig
        feeConfig, dlmmEventAuthority, memo, oracle := ⟨lbPair, lbPairAt, oracle⟩ }⟩
  · rintro ⟨size, rfl, valid, rfl, rfl, count, checked⟩
    rcases checked.user with ⟨user, userAt, signer⟩
    rcases checked.oracle with ⟨lbPair, lbPairAt, oracle⟩
    exact ⟨_, ⟨size, rfl⟩, valid, Nat.not_lt.mpr count, checked.pumpProgram,
      checked.dlmmProgram, checked.quoteMint, checked.quoteTokenProgram,
      checked.systemProgram, checked.ataProgram, checked.feeProgram, user, userAt, signer,
      checked.pumpEventAuthority, checked.globalConfig, checked.feeConfig,
      checked.dlmmEventAuthority, checked.memo, lbPair, lbPairAt, oracle, rfl, rfl, rfl⟩

theorem check_zeroAmount {pda : FindProgramAddress} {accounts : List AccountInfo}
    {data : List UInt8} (width : data.length = 36)
    (zero : (LegacyData.decode data).amountIn = 0 ∨
      (LegacyData.decode data).minProfitLamports = 0) :
    check pda accounts data = .error (arbErr arbZeroAmount) := by
  have parsed := LegacyData.parse_eq_ok.mpr ⟨width, rfl⟩
  rw [check, parsed, ok_bind, LegacyData.validate_zeroAmount zero]
  rfl

/-- The buy leg: the intermediate minimum is PumpSwap's minimum output. -/
def buyLeg (accounts : List AccountInfo) (plan : LegacyPlan) : Leg where
  build amountIn :=
    Cpi.PumpSwap.buildBuy accounts plan.pumpBase plan.route.pumpRemainingCount amountIn
      plan.route.minIntermediateMeme plan.route.trackVolume none
  failure := arbPumpCpiFailed

/-- The sell leg takes mints and token programs from the PumpSwap section, swapped
when SOL is the pool's second token. -/
def sellLeg (accounts : List AccountInfo) (plan : LegacyPlan) : Leg where
  build memeReceived :=
    let quoteProg := plan.pumpBase + pumpBuyQuoteTokenProgram
    let memeTpIdx := plan.pumpBase + pumpBuyBaseTokenProgram
    let quoteMint := plan.pumpBase + pumpBuyQuoteMint
    let baseMint := plan.pumpBase + pumpBuyBaseMint
    let solIsX := plan.route.dlmmSolIsX
    Cpi.Dlmm.buildSwap2 accounts plan.dlmmBase memeReceived
      (if solIsX then quoteMint else baseMint) (if solIsX then baseMint else quoteMint)
      (if solIsX then quoteProg else memeTpIdx) (if solIsX then memeTpIdx else quoteProg)
      userIdx userMemeAtaIdx userSolAtaIdx plan.route.dlmmBinArrayCount
  failure := arbDlmmCpiFailed

/-- `route_pump_to_dlmm::handle`. -/
def handle (pda : FindProgramAddress) (buy sell : CpiEffect) (accounts : List AccountInfo)
    (data : List UInt8) (ledger : Ledger) : Exec Receipt := do
  let plan ← check pda accounts data
  settle accounts plan.route.amountIn plan.route.minProfitLamports (buyLeg accounts plan)
    (sellLeg accounts plan) buy sell ledger

end RoutePumpToDlmm

/-! ## DLMM buy, then PumpSwap sell -/

namespace RouteDlmmToPump

/-- Steps 1 and 2: parse and run every check before the balance snapshots. -/
def check (pda : FindProgramAddress) (accounts : List AccountInfo) (data : List UInt8) :
    Exec LegacyPlan := do
  let route ← LegacyData.parse data
  route.validate
  let dlmmBase := sharedFixedLen
  let pumpSellBase := dlmmBase + dlmmFixedLen + route.dlmmBinArrayCount
  let totalExpected := pumpSellBase + pumpSellFixedLen + route.pumpRemainingCount
  require (¬accounts.length < totalExpected) (arbErr arbBadAccountCount)
  expectKey accounts (dlmmBase + dlmmProgramRel) dlmmId (arbErr arbBadProgram)
  expectKey accounts (pumpSellBase + pumpSellProgram) pumpSwapId (arbErr arbBadProgram)
  expectKey accounts (pumpSellBase + pumpSellQuoteMint) nativeSolMint (arbErr arbBadMint)
  expectKey accounts (pumpSellBase + pumpSellQuoteTokenProgram) tokenId
    (arbErr arbBadProgram)
  expectKey accounts (pumpSellBase + pumpSellSystemProgram) systemId (arbErr arbBadProgram)
  expectKey accounts (pumpSellBase + pumpSellAtaProgram) ataId (arbErr arbBadProgram)
  expectKey accounts (pumpSellBase + pumpSellFeeProgram) feeProgramId
    (arbErr arbBadProgram)
  let user ← account accounts userIdx
  require (user.isSigner = true) (.error .missingRequiredSignature)
  expectKey accounts (dlmmBase + dlmmEventAuthRel) dlmmEventAuth (arbErr arbBadProgram)
  expectKey accounts (dlmmBase + dlmmMemoRel) memoId (arbErr arbBadProgram)
  let lbPair ← account accounts (dlmmBase + dlmmLbPairRel)
  expectKey accounts (dlmmBase + dlmmOracleRel)
    (pda [dlmmOracleSeed, lbPair.key.bytes] dlmmId) (arbErr arbBadPda)
  expectKey accounts (pumpSellBase + pumpSellEventAuthority)
    (pda [pumpEventAuthSeed] pumpSwapId) (arbErr arbBadPda)
  expectKey accounts (pumpSellBase + pumpSellGlobalConfig)
    (pda [pumpGlobalConfigSeed] pumpSwapId) (arbErr arbBadPda)
  expectKey accounts (pumpSellBase + pumpSellFeeConfig)
    (pda [pumpFeeConfigSeed, pumpSwapId.bytes] feeProgramId) (arbErr arbBadPda)
  pure { route, pumpBase := pumpSellBase, dlmmBase }

theorem check_eq_ok {pda : FindProgramAddress} {accounts : List AccountInfo}
    {data : List UInt8} {plan : LegacyPlan} :
    check pda accounts data = .ok plan ↔
      data.length = 36 ∧ LegacyData.decode data = plan.route ∧ plan.route.Valid ∧
        plan.dlmmBase = 3 ∧ plan.pumpBase = 3 + 9 + plan.route.dlmmBinArrayCount ∧
        plan.pumpBase + 21 + plan.route.pumpRemainingCount ≤ accounts.length ∧
        LegacyChecked pda accounts plan.pumpBase plan.dlmmBase 19 20 := by
  rcases plan with ⟨route, pumpBase, dlmmBase⟩
  simp only [check, bind_eq_ok, LegacyData.parse_eq_ok, LegacyData.validate_eq_ok,
    require_eq_ok, expectKey_eq_ok, account_eq_ok, pure_eq_ok, exists_and_left, exists_const,
    LegacyPlan.mk.injEq]
  constructor
  · rintro ⟨_, ⟨size, rfl⟩, valid, count, dlmmProgram, pumpProgram, quoteMint,
      quoteTokenProgram, systemProgram, ataProgram, feeProgram, user, userAt, signer,
      dlmmEventAuthority, memo, lbPair, lbPairAt, oracle, pumpEventAuthority, globalConfig,
      feeConfig, rfl, rfl, rfl⟩
    exact ⟨size, rfl, valid, rfl, rfl, Nat.not_lt.mp count,
      { pumpProgram, dlmmProgram, quoteMint, quoteTokenProgram, systemProgram, ataProgram
        feeProgram, user := ⟨user, userAt, signer⟩, pumpEventAuthority, globalConfig
        feeConfig, dlmmEventAuthority, memo, oracle := ⟨lbPair, lbPairAt, oracle⟩ }⟩
  · rintro ⟨size, rfl, valid, rfl, rfl, count, checked⟩
    rcases checked.user with ⟨user, userAt, signer⟩
    rcases checked.oracle with ⟨lbPair, lbPairAt, oracle⟩
    exact ⟨_, ⟨size, rfl⟩, valid, Nat.not_lt.mpr count, checked.dlmmProgram,
      checked.pumpProgram, checked.quoteMint, checked.quoteTokenProgram,
      checked.systemProgram, checked.ataProgram, checked.feeProgram, user, userAt, signer,
      checked.dlmmEventAuthority, checked.memo, lbPair, lbPairAt, oracle,
      checked.pumpEventAuthority, checked.globalConfig, checked.feeConfig, rfl, rfl, rfl⟩

theorem check_zeroAmount {pda : FindProgramAddress} {accounts : List AccountInfo}
    {data : List UInt8} (width : data.length = 36)
    (zero : (LegacyData.decode data).amountIn = 0 ∨
      (LegacyData.decode data).minProfitLamports = 0) :
    check pda accounts data = .error (arbErr arbZeroAmount) := by
  have parsed := LegacyData.parse_eq_ok.mpr ⟨width, rfl⟩
  rw [check, parsed, ok_bind, LegacyData.validate_zeroAmount zero]
  rfl

/-- The buy leg.  The DLMM builder takes no minimum, so none is asked for here. -/
def buyLeg (accounts : List AccountInfo) (plan : LegacyPlan) : Leg where
  build amountIn :=
    let quoteProg := plan.pumpBase + pumpSellQuoteTokenProgram
    let memeTpIdx := plan.pumpBase + pumpSellBaseTokenProgram
    let quoteMint := plan.pumpBase + pumpSellQuoteMint
    let baseMint := plan.pumpBase + pumpSellBaseMint
    let solIsX := plan.route.dlmmSolIsX
    Cpi.Dlmm.buildSwap2 accounts plan.dlmmBase amountIn
      (if solIsX then quoteMint else baseMint) (if solIsX then baseMint else quoteMint)
      (if solIsX then quoteProg else memeTpIdx) (if solIsX then memeTpIdx else quoteProg)
      userIdx userSolAtaIdx userMemeAtaIdx plan.route.dlmmBinArrayCount
  failure := arbDlmmCpiFailed

/-- The sell leg.  The intermediate minimum, an amount of the meme token, is passed on
as the minimum output of a sale whose output is SOL. -/
def sellLeg (accounts : List AccountInfo) (plan : LegacyPlan) : Leg where
  build memeReceived :=
    Cpi.PumpSwap.buildSell accounts plan.pumpBase plan.route.pumpRemainingCount
      memeReceived plan.route.minIntermediateMeme none
  failure := arbPumpCpiFailed

/-- `route_dlmm_to_pump::handle`. -/
def handle (pda : FindProgramAddress) (buy sell : CpiEffect) (accounts : List AccountInfo)
    (data : List UInt8) (ledger : Ledger) : Exec Receipt := do
  let plan ← check pda accounts data
  settle accounts plan.route.amountIn plan.route.minProfitLamports (buyLeg accounts plan)
    (sellLeg accounts plan) buy sell ledger

end RouteDlmmToPump

end AtomicArbitrage.Program

import AtomicArbitrage.Client.Dlmm
import AtomicArbitrage.Client.PumpSwap

/-!
# Building the legacy routes

`build_route_pump_to_dlmm` and `build_route_dlmm_to_pump`: the single instruction that
replaces the two swap instructions of the direct builders.
-/

namespace AtomicArbitrage.Client

open Outcome Word64

/-- `build_ix_data`: the thirty-six bytes of both legacy routes. -/
def buildIxData (disc : List UInt8) (amountIn minProfit minMemeOut : UInt64)
    (trackVolume dlmmSolIsX : Bool) (pumpRemainingCount dlmmBinArrayCount : UInt8) :
    List UInt8 :=
  disc ++ (bytes amountIn ++ (bytes minProfit ++ (bytes minMemeOut ++
    [if trackVolume then 1 else 0, if dlmmSolIsX then 1 else 0, pumpRemainingCount,
      dlmmBinArrayCount])))

/-- The parsed accounts of a pool, in the order in which both builders parse them. -/
structure LegacyDlmm where
  lbPair : Pubkey
  reserveX : Pubkey
  reserveY : Pubkey
  binArrays : List Pubkey

/-- Parse the cached addresses of a pool. -/
def LegacyDlmm.parse (dlmm : DlmmPoolReserves) : ClientResult LegacyDlmm := do
  let lbPair ← parsePubkey dlmm.lbPair
  let reserveX ← parsePubkey dlmm.reserveXAddress
  let reserveY ← parsePubkey dlmm.reserveYAddress
  let binArrays ← dlmm.parseBinArrays
  pure { lbPair, reserveX, reserveY, binArrays }

/-- The arguments that both legacy builders take. -/
structure LegacyArgs where
  walletPubkey : Pubkey
  userSolAta : Pubkey
  userMemeAta : Pubkey
  memeMint : Pubkey
  investmentLamports : UInt64
  minMemeOut : UInt64
  minProfitLamports : UInt64
  dlmm : DlmmPoolReserves
  poolMeta : PumpSwapPoolMeta
  pool : Pubkey
  memeTokenProgram : Pubkey
  onchainProgramId : String
  lastValidBlockHeight : UInt64

namespace LegacyArgs

variable (pda : FindProgramAddress) (args : LegacyArgs)

/-- The three shared accounts. -/
def shared : List AccountMeta :=
  [.new args.walletPubkey true, .new args.userSolAta false, .new args.userMemeAta false]

/-- The DLMM section of a parsed pool. -/
def dlmmSection (parsed : LegacyDlmm) : List AccountMeta :=
  let program : Pubkey := .ofLiteral dlmmProgram
  pushDlmmAccounts program parsed.lbPair (args.dlmm.bitmapExtension.getD program)
    parsed.reserveX parsed.reserveY (dlmmOracle pda parsed.lbPair) program
    (.ofLiteral memoProgram) (.ofLiteral dlmmEventAuthority) parsed.binArrays

/-- Whether SOL is the pool's first token, by comparing the cached strings. -/
def dlmmSolIsX : Bool := args.dlmm.tokenXMint == nativeSolMint

end LegacyArgs

/-- `build_route_pump_to_dlmm`. -/
def buildRoutePumpToDlmm (pda : FindProgramAddress) (args : LegacyArgs) :
    ClientResult (Instruction × UInt64) := do
  let solMint : Pubkey := .ofLiteral nativeSolMint
  let solTokenProgram : Pubkey := .ofLiteral tokenProgram
  let arbProgramId ← parsePubkey args.onchainProgramId
  let parsed ← LegacyDlmm.parse args.dlmm
  let accounts :=
    args.shared ++
    (pushPumpswapBuyAccounts pda args.walletPubkey args.userSolAta args.userMemeAta
      args.memeMint solMint args.memeTokenProgram solTokenProgram args.pool args.poolMeta ++
    args.dlmmSection pda parsed)
  let data := buildIxData routePumpToDlmmDisc args.investmentLamports args.minProfitLamports
    args.minMemeOut false args.dlmmSolIsX (pumpswapBuyRemainingCount args.poolMeta)
    (.ofNat args.dlmm.binArrayCount)
  pure ({ programId := arbProgramId, accounts, data }, args.lastValidBlockHeight)

/-- `build_route_dlmm_to_pump`. -/
def buildRouteDlmmToPump (pda : FindProgramAddress) (args : LegacyArgs) :
    ClientResult (Instruction × UInt64) := do
  let solMint : Pubkey := .ofLiteral nativeSolMint
  let solTokenProgram : Pubkey := .ofLiteral tokenProgram
  let arbProgramId ← parsePubkey args.onchainProgramId
  let parsed ← LegacyDlmm.parse args.dlmm
  let accounts :=
    args.shared ++
    (args.dlmmSection pda parsed ++
    pushPumpswapSellAccounts pda args.walletPubkey args.userSolAta args.userMemeAta
      args.memeMint solMint args.memeTokenProgram solTokenProgram args.pool args.poolMeta)
  let data := buildIxData routeDlmmToPumpDisc args.investmentLamports args.minProfitLamports
    args.minMemeOut false args.dlmmSolIsX (pumpswapSellRemainingCount args.poolMeta)
    (.ofNat args.dlmm.binArrayCount)
  pure ({ programId := arbProgramId, accounts, data }, args.lastValidBlockHeight)

end AtomicArbitrage.Client

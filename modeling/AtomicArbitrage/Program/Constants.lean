import AtomicArbitrage.Solana.Account

/-!
# Constants of the on-chain program

Addresses, seeds, discriminators, error codes and account offsets, under the names of
the program's own constants.  Offsets are unfolded by the simplifier, addresses are not:
a proof compares addresses by name or through the distinctness facts at the end.
-/

namespace AtomicArbitrage.Program

/-! ## Addresses -/

def pumpSwapId : Pubkey := .ofLiteral "pAMMBay6oceH9fJKBRHGP5D4bD4sWpmSwMn52FMfXEA"
def dlmmId : Pubkey := .ofLiteral "LBUZKhRxPF3XUpBCjp4YzTKgLccjZhTSDM9YuVaPwxo"
def cpmmId : Pubkey := .ofLiteral "CPMMoo8L3F4NbTegBCKVNunggL7H1ZpdTHKxQB5qKP1C"
def whirlpoolId : Pubkey := .ofLiteral "whirLbMiicVdio4qvUfM5KAg6Ct8VwpYzGff3uctyCc"
def tokenId : Pubkey := .ofLiteral "TokenkegQfeZyiNwAJbNbGKPFXCWuBvf9Ss623VQ5DA"
/-- The Token-2022 program, written inline in the two validators that accept it. -/
def token22 : Pubkey := .ofLiteral "TokenzQdBNbLqP5VEhdkAS6EPFLC1PHnBqCXEpPxuEb"
def systemId : Pubkey := .ofLiteral "11111111111111111111111111111111"
def ataId : Pubkey := .ofLiteral "ATokenGPvbdGVxr1b2hvZbsiqW5xWH25efTNsLJA8knL"
def feeProgramId : Pubkey := .ofLiteral "pfeeUxB6jkeY1Hxd7CsFCAjcbHA9rWtchMGdZ6VojVZ"
def memoId : Pubkey := .ofLiteral "MemoSq4gqABAXKb96qnH8TysNcWxMyWCqXgDLGmfcHr"
/-- The event authority that all DLMM pools share. -/
def dlmmEventAuth : Pubkey := .ofLiteral "D1ZN9Wj1fRSUQfCjhvnu1hqDMT7hzjzBBpi12nVniYD6"
def nativeSolMint : Pubkey := .ofLiteral "So11111111111111111111111111111111111111112"

/-! ## Seeds -/

/-- A byte string literal. -/
def ascii (text : String) : List UInt8 :=
  text.toList.map fun character => UInt8.ofNat character.toNat

def pumpEventAuthSeed : List UInt8 := ascii "__event_authority"
def pumpGlobalConfigSeed : List UInt8 := ascii "global_config"
def pumpFeeConfigSeed : List UInt8 := ascii "fee_config"
def dlmmOracleSeed : List UInt8 := ascii "oracle"
def cpmmAuthSeed : List UInt8 := ascii "vault_and_lp"
def whirlpoolAuthSeed : List UInt8 := ascii "authority"

/-! ## Discriminators -/

def routePumpToDlmmDisc : List UInt8 := [0x8b, 0xe8, 0x20, 0x55, 0xc1, 0xb0, 0xc1, 0xe9]
def routeDlmmToPumpDisc : List UInt8 := [0x17, 0x6e, 0xcc, 0x5d, 0xdd, 0x93, 0x51, 0x95]
def routeDisc : List UInt8 := [0x5f, 0x0f, 0x91, 0x02, 0x9a, 0x03, 0x4c, 0xc3]
def pumpBuyDisc : List UInt8 := [0xc6, 0x2e, 0x15, 0x52, 0xb4, 0xd9, 0xe8, 0x70]
def pumpSellDisc : List UInt8 := [0x33, 0xe6, 0x85, 0xa4, 0x01, 0x7f, 0x83, 0xad]
def dlmmSwap2Disc : List UInt8 := [0x41, 0x4b, 0x3f, 0x4c, 0xeb, 0x5b, 0x5b, 0x88]
def cpmmSwapDisc : List UInt8 := [0xf8, 0xc6, 0x9e, 0x91, 0xe1, 0x75, 0x87, 0xc8]
def whirlpoolSwapDisc : List UInt8 := [0xf8, 0xc6, 0x9e, 0x91, 0xe1, 0x75, 0x87, 0xc8]

/-! ## Instruction data layout -/

@[simp] def offAmountIn : Nat := 8
@[simp] def offMinProfit : Nat := 16
@[simp] def offMinIntermediate : Nat := 24
@[simp] def offTrackVolume : Nat := 32
@[simp] def offDlmmSolIsX : Nat := 33
@[simp] def offPumpRemaining : Nat := 34
@[simp] def offDlmmBinArrayCount : Nat := 35
@[simp] def offBuyRemaining : Nat := 34
@[simp] def offSellRemaining : Nat := 35
@[simp] def ixDataLen : Nat := 36

/-! ## Account offsets -/

@[simp] def userIdx : Nat := 0
@[simp] def userSolAtaIdx : Nat := 1
@[simp] def userMemeAtaIdx : Nat := 2
@[simp] def sharedFixedLen : Nat := 3

@[simp] def pumpBuyPool : Nat := 0
@[simp] def pumpBuyUser : Nat := 1
@[simp] def pumpBuyGlobalConfig : Nat := 2
@[simp] def pumpBuyBaseMint : Nat := 3
@[simp] def pumpBuyQuoteMint : Nat := 4
@[simp] def pumpBuyUserBaseAta : Nat := 5
@[simp] def pumpBuyUserQuoteAta : Nat := 6
@[simp] def pumpBuyPoolBaseAta : Nat := 7
@[simp] def pumpBuyPoolQuoteAta : Nat := 8
@[simp] def pumpBuyProtocolFeeRecipient : Nat := 9
@[simp] def pumpBuyProtocolFeeAta : Nat := 10
@[simp] def pumpBuyBaseTokenProgram : Nat := 11
@[simp] def pumpBuyQuoteTokenProgram : Nat := 12
@[simp] def pumpBuySystemProgram : Nat := 13
@[simp] def pumpBuyAtaProgram : Nat := 14
@[simp] def pumpBuyEventAuthority : Nat := 15
@[simp] def pumpBuyProgram : Nat := 16
@[simp] def pumpBuyCoinCreatorVaultAta : Nat := 17
@[simp] def pumpBuyCoinCreatorVaultAuth : Nat := 18
@[simp] def pumpBuyGlobalVolAccum : Nat := 19
@[simp] def pumpBuyUserVolAccum : Nat := 20
@[simp] def pumpBuyFeeConfig : Nat := 21
@[simp] def pumpBuyFeeProgram : Nat := 22
@[simp] def pumpBuyFixedLen : Nat := 23

@[simp] def dlmmProgramRel : Nat := 0
@[simp] def dlmmLbPairRel : Nat := 1
@[simp] def dlmmBitmapRel : Nat := 2
@[simp] def dlmmReserveXRel : Nat := 3
@[simp] def dlmmReserveYRel : Nat := 4
@[simp] def dlmmOracleRel : Nat := 5
@[simp] def dlmmHostFeeRel : Nat := 6
@[simp] def dlmmMemoRel : Nat := 7
@[simp] def dlmmEventAuthRel : Nat := 8
@[simp] def dlmmBinArraysStartRel : Nat := 9
/-- The length of the DLMM section in the two legacy routes.  The generic route's own
constant of that name counts four more accounts. -/
@[simp] def dlmmFixedLen : Nat := 9

@[simp] def pumpSellPool : Nat := 0
@[simp] def pumpSellUser : Nat := 1
@[simp] def pumpSellGlobalConfig : Nat := 2
@[simp] def pumpSellBaseMint : Nat := 3
@[simp] def pumpSellQuoteMint : Nat := 4
@[simp] def pumpSellUserBaseAta : Nat := 5
@[simp] def pumpSellUserQuoteAta : Nat := 6
@[simp] def pumpSellPoolBaseAta : Nat := 7
@[simp] def pumpSellPoolQuoteAta : Nat := 8
@[simp] def pumpSellProtocolFeeRecipient : Nat := 9
@[simp] def pumpSellProtocolFeeAta : Nat := 10
@[simp] def pumpSellBaseTokenProgram : Nat := 11
@[simp] def pumpSellQuoteTokenProgram : Nat := 12
@[simp] def pumpSellSystemProgram : Nat := 13
@[simp] def pumpSellAtaProgram : Nat := 14
@[simp] def pumpSellEventAuthority : Nat := 15
@[simp] def pumpSellProgram : Nat := 16
@[simp] def pumpSellCoinCreatorVaultAta : Nat := 17
@[simp] def pumpSellCoinCreatorVaultAuth : Nat := 18
@[simp] def pumpSellFeeConfig : Nat := 19
@[simp] def pumpSellFeeProgram : Nat := 20
@[simp] def pumpSellFixedLen : Nat := 21

/-! ## Error codes -/

def arbInsufficientProfit : Nat := 6000
def arbResidualMeme : Nat := 6001
def arbZeroAmount : Nat := 6002
def arbBadDiscriminator : Nat := 6003
def arbBadAccountCount : Nat := 6004
def arbBadPda : Nat := 6005
def arbBadProgram : Nat := 6006
def arbBadMint : Nat := 6007
def arbNegativeNet : Nat := 6008
def arbPriceMathOverflow : Nat := 6010
def arbEmptyBins : Nat := 6011
def arbPumpCpiFailed : Nat := 6100
def arbDlmmCpiFailed : Nat := 6200
def arbCpmmCpiFailed : Nat := 6300
def arbWhirlpoolCpiFailed : Nat := 6400
def arbUnknownDexPair : Nat := 6500

/-- `arb_err`, as the error an instruction handler returns. -/
def arbErr (code : Nat) : Abort := .error (.custom code)

/-! ## Distinct addresses -/

/-- No two exchanges share a program address, so a section's program identifies it. -/
theorem programIds_nodup : [pumpSwapId, dlmmId, cpmmId, whirlpoolId].Nodup := by
  decide +kernel

/-- The three routes have different discriminators. -/
theorem routeDiscs_nodup : [routePumpToDlmmDisc, routeDlmmToPumpDisc, routeDisc].Nodup := by
  decide

end AtomicArbitrage.Program

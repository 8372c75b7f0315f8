import AtomicArbitrage.Program.Constants

/-!
# Constants of the client

The client keeps its own copies of the addresses, as strings, and of the discriminators.
The equations at the end say that the copies agree with the program's.
-/

namespace AtomicArbitrage.Client

open Program (ascii)

/-! ## Addresses -/

def cpmmProgram : String := "CPMMoo8L3F4NbTegBCKVNunggL7H1ZpdTHKxQB5qKP1C"
def pumpfunAmmProgram : String := "pAMMBay6oceH9fJKBRHGP5D4bD4sWpmSwMn52FMfXEA"
def dlmmProgram : String := "LBUZKhRxPF3XUpBCjp4YzTKgLccjZhTSDM9YuVaPwxo"
def whirlpoolProgram : String := "whirLbMiicVdio4qvUfM5KAg6Ct8VwpYzGff3uctyCc"
def tokenProgram : String := "TokenkegQfeZyiNwAJbNbGKPFXCWuBvf9Ss623VQ5DA"
def token22Program : String := "TokenzQdBNbLqP5VEhdkAS6EPFLC1PHnBqCXEpPxuEb"
def memoProgram : String := "MemoSq4gqABAXKb96qnH8TysNcWxMyWCqXgDLGmfcHr"
def ataProgram : String := "ATokenGPvbdGVxr1b2hvZbsiqW5xWH25efTNsLJA8knL"
def systemProgram : String := "11111111111111111111111111111111"
def nativeSolMint : String := "So11111111111111111111111111111111111111112"
def usdcMint : String := "EPjFWdd5AufqSSqeM2qN1xzybapC8G4wEGGkZwyTDt1v"
def usdtMint : String := "Es9vMFrzaCERmJfrF4H2FYD4KCoNkY11McCe8BenwNYB"
def cpmmAmmConfig : String := "D4FPEruKEHrG5TenZ2mpDGEfu1iUvTiqBxvpU8HLBvC2"
def whirlpoolConfig : String := "2LecshUwdy9xi7meFgHtFJQNSKk4KdTrcpvaB56dP2NQ"
def dlmmEventAuthority : String := "D1ZN9Wj1fRSUQfCjhvnu1hqDMT7hzjzBBpi12nVniYD6"
def pumpswapEventAuthority : String := "GS4CU59F31iL7aR2Q8zVS8DRrcRnXX1yjQ66TqNVQnaR"
def pumpswapGlobalConfig : String := "ADyA8hdefvWN2dbGGWFotbzWxrAvLW83WG6QCVXvJKqw"
def pumpswapFeeProgram : String := "pfeeUxB6jkeY1Hxd7CsFCAjcbHA9rWtchMGdZ6VojVZ"
def pumpswapGlobalVolumeAccumulator : String :=
  "C2aFPdENg4A2HQsmrd5rTw5TaYBX5Ku887cWjbFKtZpw"
def pumpswapBuybackFeeRecipient : String := "5YxQFdt3Tr9zJLvkFccqXVUwhdTWJQc1fFg2YPbxvxeD"

/-- The protocol fee recipients of normal pools. -/
def pumpswapProtocolFeeRecipients : List String :=
  ["62qc2CNXwrYqQScmEdiZFFAnJR262PxWEuNQtxfafNgV",
   "7VtfL8fvgNfhz17qKRMjzQEXgbdpnHHHQRh54R9jP2RJ",
   "7hTckgnGnLQR6sdH7YkqFTAA7VwTfYFaZ6EhEsU3saCX",
   "9rPYyANsfQZw3DnDmKE3YCQF5E8oD89UXoHn9JFEhJUz",
   "AVmoTthdrX6tKt4nDjco2D775W2YK3sDhxPcMmzUAmTY",
   "FWsW1xNtWscwNmKv6wVsU1iTzRN6wmmk3MjxRP5tT7hz",
   "G5UZAVbAf46s7cKWoyKu8kYTip9DGTpbLZ2qa9Aq69dP",
   "JCRGumoE9Qi5BBgULTgdgTLjSgkCMSbF62ZZfGs84JeU"]

/-- The fee recipients reserved for Mayhem-mode pools. -/
def pumpswapReservedFeeRecipients : List String :=
  ["GesfTA3X2arioaHp8bbKdjG9vJtskViWACZoYvxp4twS",
   "4budycTjhs9fD6xw62VBducVTNgMgJJ5BgtKq7mAZwn6",
   "8SBKzEQU4nLSzcwF4a74F2iaUDQyTfjGndn6qUWBnrpR",
   "4UQeTP1T39KZ9Sfxzo3WR5skgsaP6NZa87BAkuazLEKH",
   "8sNeir4QsLsJdYpc9RZacohhK1Y5FLU3nC5LXgYB4aa6",
   "Fh9HmeLNUMVCvejxCtCL2DbYaRyBFVJ5xrWkLnMH6fdk",
   "463MEnMeGyJekNZFQSTUABBEbLnvMTALbT6ZmsxAbAdq",
   "6AUH3WEHucYZyC61hqpqYUWVto5qA5hjHuNQ32GNnNxA"]

/-! ## Discriminators and exchange kinds -/

def routePumpToDlmmDisc : List UInt8 := [0x8b, 0xe8, 0x20, 0x55, 0xc1, 0xb0, 0xc1, 0xe9]
def routeDlmmToPumpDisc : List UInt8 := [0x17, 0x6e, 0xcc, 0x5d, 0xdd, 0x93, 0x51, 0x95]
def routeDisc : List UInt8 := [0x5f, 0x0f, 0x91, 0x02, 0x9a, 0x03, 0x4c, 0xc3]
def pumpswapBuyDiscriminator : List UInt8 :=
  [0xc6, 0x2e, 0x15, 0x52, 0xb4, 0xd9, 0xe8, 0x70]
def pumpswapSellDiscriminator : List UInt8 :=
  [0x33, 0xe6, 0x85, 0xa4, 0x01, 0x7f, 0x83, 0xad]
def dlmmSwap2Discriminator : List UInt8 :=
  [0x41, 0x4b, 0x3f, 0x4c, 0xeb, 0x5b, 0x5b, 0x88]

def dexKindPumpswap : UInt8 := 0
def dexKindDlmm : UInt8 := 1
def dexKindCpmm : UInt8 := 2
def dexKindWhirlpool : UInt8 := 3

/-! ## Agreement with the program's constants -/

section

open Pubkey (ofLiteral)

@[simp] theorem ofLiteral_cpmmProgram : ofLiteral cpmmProgram = Program.cpmmId := rfl
@[simp] theorem ofLiteral_pumpfunAmmProgram :
    ofLiteral pumpfunAmmProgram = Program.pumpSwapId := rfl
@[simp] theorem ofLiteral_dlmmProgram : ofLiteral dlmmProgram = Program.dlmmId := rfl
@[simp] theorem ofLiteral_whirlpoolProgram :
    ofLiteral whirlpoolProgram = Program.whirlpoolId := rfl
@[simp] theorem ofLiteral_tokenProgram : ofLiteral tokenProgram = Program.tokenId := rfl
@[simp] theorem ofLiteral_token22Program : ofLiteral token22Program = Program.token22 := rfl
@[simp] theorem ofLiteral_memoProgram : ofLiteral memoProgram = Program.memoId := rfl
@[simp] theorem ofLiteral_ataProgram : ofLiteral ataProgram = Program.ataId := rfl
@[simp] theorem ofLiteral_systemProgram : ofLiteral systemProgram = Program.systemId := rfl
@[simp] theorem ofLiteral_nativeSolMint :
    ofLiteral nativeSolMint = Program.nativeSolMint := rfl
@[simp] theorem ofLiteral_dlmmEventAuthority :
    ofLiteral dlmmEventAuthority = Program.dlmmEventAuth := rfl
@[simp] theorem ofLiteral_pumpswapFeeProgram :
    ofLiteral pumpswapFeeProgram = Program.feeProgramId := rfl

end

/-- The three route discriminators are the program's. -/
theorem routeDiscs_eq :
    [routePumpToDlmmDisc, routeDlmmToPumpDisc, routeDisc] =
      [Program.routePumpToDlmmDisc, Program.routeDlmmToPumpDisc, Program.routeDisc] := rfl

/-- Addresses that both sides take from the PumpSwap program, the client as constants
and the program by derivation.  The derivation is the deployed one. -/
structure Derivation where
  find : FindProgramAddress
  globalConfig : find [Program.pumpGlobalConfigSeed] Program.pumpSwapId =
    .ofLiteral pumpswapGlobalConfig
  eventAuthority : find [Program.pumpEventAuthSeed] Program.pumpSwapId =
    .ofLiteral pumpswapEventAuthority

end AtomicArbitrage.Client

import AtomicArbitrage.Client.Constants
import AtomicArbitrage.Library.Word64

/-!
# DLMM on the client

Cached pool data, the direct `swap2` builder and the account list that the legacy route
builders push.  Cached addresses are strings, so every use of one can fail to parse.
-/

namespace AtomicArbitrage.Client

open Outcome Word64

/-- How a client builder can fail. -/
inductive ClientError where
  | parsePubkey
  | bail (message : String)
  | panic
deriving DecidableEq

abbrev ClientResult := Except ClientError

/-- `Pubkey::from_str(..)?`. -/
def parsePubkey (text : String) : ClientResult Pubkey :=
  orFail (Pubkey.fromStr? text) .parsePubkey

/-- `Pubkey::from_str(..).unwrap()` on data that is not a constant. -/
def unwrapPubkey (text : String) : ClientResult Pubkey :=
  orFail (Pubkey.fromStr? text) .panic

@[simp] theorem parsePubkey_eq_ok {text : String} {key : Pubkey} :
    parsePubkey text = .ok key ↔ Pubkey.fromStr? text = some key := orFail_eq_ok

@[simp] theorem unwrapPubkey_eq_ok {text : String} {key : Pubkey} :
    unwrapPubkey text = .ok key ↔ Pubkey.fromStr? text = some key := orFail_eq_ok

/-- The fields of `DlmmPoolReserves` that the route builders read. -/
structure DlmmPoolReserves where
  lbPair : String
  tokenXMint : String
  tokenYMint : String
  reserveXAddress : String
  reserveYAddress : String
  binArrayAddresses : List String
  binArrayBitmapExtension : Option String
deriving DecidableEq

/-- The number of bin arrays a route includes: at most five. -/
def DlmmPoolReserves.binArrayCount (dlmm : DlmmPoolReserves) : Nat :=
  min dlmm.binArrayAddresses.length 5

/-- The cached bitmap extension, when it is present and parses. -/
def DlmmPoolReserves.bitmapExtension (dlmm : DlmmPoolReserves) : Option Pubkey :=
  dlmm.binArrayBitmapExtension.bind Pubkey.fromStr?

/-- The bin arrays a route includes. -/
def DlmmPoolReserves.parseBinArrays (dlmm : DlmmPoolReserves) : ClientResult (List Pubkey) :=
  (dlmm.binArrayAddresses.take dlmm.binArrayCount).mapM unwrapPubkey

theorem DlmmPoolReserves.length_parseBinArrays {dlmm : DlmmPoolReserves}
    {bins : List Pubkey} (parsed : dlmm.parseBinArrays = .ok bins) :
    bins.length = dlmm.binArrayCount := by
  have sameLength := (mapM_eq_ok.mp parsed).length_eq
  rw [List.length_take, DlmmPoolReserves.binArrayCount] at sameLength
  rw [DlmmPoolReserves.binArrayCount]
  omega

/-- `build_dlmm_swap2_ix`. -/
def buildDlmmSwap2Ix (user lbPair : Pubkey) (binArrays : List Pubkey)
    (reserveX reserveY userTokenIn userTokenOut tokenXMint tokenYMint oracle
      eventAuthority : Pubkey) (amountIn minAmountOut : UInt64)
    (tokenXProgram tokenYProgram memoProg eventProgram : Pubkey)
    (binArrayBitmapExtension hostFeeIn : Option Pubkey) : Instruction :=
  let dlmm : Pubkey := .ofLiteral dlmmProgram
  { programId := dlmm
    accounts :=
      [.new lbPair false,
       .new (binArrayBitmapExtension.getD dlmm) false,
       .new reserveX false,
       .new reserveY false,
       .new userTokenIn false,
       .new userTokenOut false,
       .newReadonly tokenXMint false,
       .newReadonly tokenYMint false,
       .new oracle false,
       .new (hostFeeIn.getD dlmm) false,
       .newReadonly user true,
       .newReadonly tokenXProgram false,
       .newReadonly tokenYProgram false,
       .newReadonly memoProg false,
       .newReadonly eventAuthority false,
       .newReadonly eventProgram false] ++
      binArrays.map fun binArray => .new binArray false
    data := dlmmSwap2Discriminator ++ (bytes amountIn ++ (bytes minAmountOut ++
      encode 4 0)) }

/-- `push_dlmm_accounts`: nine fixed accounts and the bin arrays, as the list it
appends.  Mints and token programs are not part of this section. -/
def pushDlmmAccounts (program lbPair bitmap reserveX reserveY oracle hostFee memoProg
    eventAuth : Pubkey) (binArrays : List Pubkey) : List AccountMeta :=
  [.newReadonly program false,
   .new lbPair false,
   .new bitmap false,
   .new reserveX false,
   .new reserveY false,
   .new oracle false,
   .new hostFee false,
   .newReadonly memoProg false,
   .newReadonly eventAuth false] ++
  binArrays.map fun binArray => .new binArray false

/-- The oracle address the client derives for a pool. -/
def dlmmOracle (pda : FindProgramAddress) (lbPair : Pubkey) : Pubkey :=
  pda [Program.ascii "oracle", lbPair.bytes] (.ofLiteral dlmmProgram)

end AtomicArbitrage.Client

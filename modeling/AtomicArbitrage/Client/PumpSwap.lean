import AtomicArbitrage.Client.Constants
import AtomicArbitrage.Library.Word64

/-!
# PumpSwap on the client

The derived addresses, the direct instruction builders and the account lists that the
route builders push.  The direct builders and the route builders are written separately
in the source and stay separate here; their lists are compared at the end.
-/

namespace AtomicArbitrage.Client

open Word64
open Program (ascii)

/-- `PumpSwapPoolMeta`. -/
structure PumpSwapPoolMeta where
  coinCreator : Pubkey
  isMayhemMode : Bool
  isCashbackCoin : Bool
  poolBaseTokenAccount : Pubkey
  poolQuoteTokenAccount : Pubkey
deriving DecidableEq

section

variable (pda : FindProgramAddress)

/-- `ata_addr`. -/
def ataAddr (wallet mint tokenProg : Pubkey) : Pubkey :=
  pda [wallet.bytes, tokenProg.bytes, mint.bytes] (.ofLiteral ataProgram)

def pumpswapUserVolAccumulator (user : Pubkey) : Pubkey :=
  pda [ascii "user_volume_accumulator", user.bytes] (.ofLiteral pumpfunAmmProgram)

def pumpswapCoinCreatorVaultAuthority (coinCreator : Pubkey) : Pubkey :=
  pda [ascii "creator_vault", coinCreator.bytes] (.ofLiteral pumpfunAmmProgram)

def pumpswapCoinCreatorVaultAta (authority quoteMint quoteTokenProgram : Pubkey) : Pubkey :=
  ataAddr pda authority quoteMint quoteTokenProgram

def pumpswapFeeConfigPda : Pubkey :=
  pda [ascii "fee_config", (Pubkey.ofLiteral pumpfunAmmProgram).bytes]
    (.ofLiteral pumpswapFeeProgram)

def pumpswapPoolV2Pda (baseMint : Pubkey) : Pubkey :=
  pda [ascii "pool-v2", baseMint.bytes] (.ofLiteral pumpfunAmmProgram)

def pumpswapUserVolAccumulatorQuoteAta (user quoteMint quoteTokenProgram : Pubkey) :
    Pubkey :=
  ataAddr pda (pumpswapUserVolAccumulator pda user) quoteMint quoteTokenProgram

/-- `pick_pumpswap_protocol_fee_recipient`: the first recipient of the pool's list. -/
def pickPumpswapProtocolFeeRecipient (isMayhemMode : Bool) : Pubkey :=
  let list := if isMayhemMode then pumpswapReservedFeeRecipients
    else pumpswapProtocolFeeRecipients
  .ofLiteral (list.headD "")

/-! ## Direct builders -/

/-- `build_pumpswap_buy_ix`. -/
def buildPumpswapBuyIx (user pool baseMint quoteMint userBaseAta userQuoteAta poolBaseAta
    poolQuoteAta baseTokenProgram quoteTokenProgram : Pubkey)
    (spendableQuoteIn minBaseAmountOut : UInt64) (trackVolume : Bool)
    (coinCreator : Pubkey) (isCashbackCoin : Bool)
    (buybackRecipient protocolFeeRecipient : Pubkey) : Instruction :=
  let protocolFeeRecipientAta := ataAddr pda protocolFeeRecipient quoteMint quoteTokenProgram
  let creatorVaultAuthority := pumpswapCoinCreatorVaultAuthority pda coinCreator
  let creatorVaultAta :=
    pumpswapCoinCreatorVaultAta pda creatorVaultAuthority quoteMint quoteTokenProgram
  let cashbackAta :=
    pumpswapUserVolAccumulatorQuoteAta pda user quoteMint quoteTokenProgram
  let buybackRecipientAta := ataAddr pda buybackRecipient quoteMint quoteTokenProgram
  { programId := .ofLiteral pumpfunAmmProgram
    accounts :=
      [.new pool false,
       .new user true,
       .newReadonly (.ofLiteral pumpswapGlobalConfig) false,
       .newReadonly baseMint false,
       .newReadonly quoteMint false,
       .new userBaseAta false,
       .new userQuoteAta false,
       .new poolBaseAta false,
       .new poolQuoteAta false,
       .newReadonly protocolFeeRecipient false,
       .new protocolFeeRecipientAta false,
       .newReadonly baseTokenProgram false,
       .newReadonly quoteTokenProgram false,
       .newReadonly (.ofLiteral systemProgram) false,
       .newReadonly (.ofLiteral ataProgram) false,
       .newReadonly (.ofLiteral pumpswapEventAuthority) false,
       .newReadonly (.ofLiteral pumpfunAmmProgram) false,
       .new creatorVaultAta false,
       .newReadonly creatorVaultAuthority false,
       .newReadonly (.ofLiteral pumpswapGlobalVolumeAccumulator) false,
       .new (pumpswapUserVolAccumulator pda user) false,
       .newReadonly (pumpswapFeeConfigPda pda) false,
       .newReadonly (.ofLiteral pumpswapFeeProgram) false] ++
      ((if isCashbackCoin then [.new cashbackAta false] else []) ++
       (if coinCreator ≠ .zero then [.newReadonly (pumpswapPoolV2Pda pda baseMint) false]
        else []) ++
       [.newReadonly buybackRecipient false, .new buybackRecipientAta false])
    data := pumpswapBuyDiscriminator ++ (bytes spendableQuoteIn ++
      (bytes minBaseAmountOut ++ [if trackVolume then 1 else 0])) }

/-- `build_pumpswap_sell_ix`. -/
def buildPumpswapSellIx (user pool baseMint quoteMint userBaseAta userQuoteAta poolBaseAta
    poolQuoteAta baseTokenProgram quoteTokenProgram : Pubkey)
    (baseAmountIn minQuoteAmountOut : UInt64)
    (coinCreator : Pubkey) (isCashbackCoin : Bool)
    (buybackRecipient protocolFeeRecipient : Pubkey) : Instruction :=
  let protocolFeeRecipientAta := ataAddr pda protocolFeeRecipient quoteMint quoteTokenProgram
  let creatorVaultAuthority := pumpswapCoinCreatorVaultAuthority pda coinCreator
  let creatorVaultAta :=
    pumpswapCoinCreatorVaultAta pda creatorVaultAuthority quoteMint quoteTokenProgram
  let cashbackAta :=
    pumpswapUserVolAccumulatorQuoteAta pda user quoteMint quoteTokenProgram
  let buybackRecipientAta := ataAddr pda buybackRecipient quoteMint quoteTokenProgram
  { programId := .ofLiteral pumpfunAmmProgram
    accounts :=
      [.new pool false,
       .new user true,
       .newReadonly (.ofLiteral pumpswapGlobalConfig) false,
       .newReadonly baseMint false,
       .newReadonly quoteMint false,
       .new userBaseAta false,
       .new userQuoteAta false,
       .new poolBaseAta false,
       .new poolQuoteAta false,
       .newReadonly protocolFeeRecipient false,
       .new protocolFeeRecipientAta false,
       .newReadonly baseTokenProgram false,
       .newReadonly quoteTokenProgram false,
       .newReadonly (.ofLiteral systemProgram) false,
       .newReadonly (.ofLiteral ataProgram) false,
       .newReadonly (.ofLiteral pumpswapEventAuthority) false,
       .newReadonly (.ofLiteral pumpfunAmmProgram) false,
       .new creatorVaultAta false,
       .newReadonly creatorVaultAuthority false,
       .newReadonly (pumpswapFeeConfigPda pda) false,
       .newReadonly (.ofLiteral pumpswapFeeProgram) false] ++
      ((if isCashbackCoin then
          [.new cashbackAta false, .new (pumpswapUserVolAccumulator pda user) false]
        else []) ++
       (if coinCreator ≠ .zero then [.newReadonly (pumpswapPoolV2Pda pda baseMint) false]
        else []) ++
       [.newReadonly buybackRecipient false, .new buybackRecipientAta false])
    data := pumpswapSellDiscriminator ++ (bytes baseAmountIn ++ bytes minQuoteAmountOut) }

/-! ## Account lists of the route builders -/

/-- The twenty-three fixed accounts that `push_pumpswap_buy_accounts` pushes. -/
def pumpswapBuyFixed (user userSolAta userMemeAta memeMint solMint baseTokenProgram
    quoteTokenProgram pool : Pubkey) (poolMeta : PumpSwapPoolMeta) : List AccountMeta :=
  let protocolFeeRecipient := pickPumpswapProtocolFeeRecipient poolMeta.isMayhemMode
  let protocolFeeAta := ataAddr pda protocolFeeRecipient solMint quoteTokenProgram
  let creatorVaultAuthority := pumpswapCoinCreatorVaultAuthority pda poolMeta.coinCreator
  let creatorVaultAta :=
    pumpswapCoinCreatorVaultAta pda creatorVaultAuthority solMint quoteTokenProgram
  [.new pool false,
   .new user true,
   .newReadonly (.ofLiteral pumpswapGlobalConfig) false,
   .newReadonly memeMint false,
   .newReadonly solMint false,
   .new userMemeAta false,
   .new userSolAta false,
   .new poolMeta.poolBaseTokenAccount false,
   .new poolMeta.poolQuoteTokenAccount false,
   .newReadonly protocolFeeRecipient false,
   .new protocolFeeAta false,
   .newReadonly baseTokenProgram false,
   .newReadonly quoteTokenProgram false,
   .newReadonly (.ofLiteral systemProgram) false,
   .newReadonly (.ofLiteral ataProgram) false,
   .newReadonly (.ofLiteral pumpswapEventAuthority) false,
   .newReadonly (.ofLiteral pumpfunAmmProgram) false,
   .new creatorVaultAta false,
   .newReadonly creatorVaultAuthority false,
   .newReadonly (.ofLiteral pumpswapGlobalVolumeAccumulator) false,
   .new (pumpswapUserVolAccumulator pda user) false,
   .newReadonly (pumpswapFeeConfigPda pda) false,
   .newReadonly (.ofLiteral pumpswapFeeProgram) false]

/-- The remaining accounts of a buy: two to four of them. -/
def pumpswapBuyRemaining (user memeMint solMint quoteTokenProgram : Pubkey)
    (poolMeta : PumpSwapPoolMeta) : List AccountMeta :=
  let cashbackAta := pumpswapUserVolAccumulatorQuoteAta pda user solMint quoteTokenProgram
  let buybackRecipient : Pubkey := .ofLiteral pumpswapBuybackFeeRecipient
  let buybackAta := ataAddr pda buybackRecipient solMint quoteTokenProgram
  (if poolMeta.isCashbackCoin then [.new cashbackAta false] else []) ++
  (if poolMeta.coinCreator ≠ .zero then
    [.newReadonly (pumpswapPoolV2Pda pda memeMint) false] else []) ++
  [.newReadonly buybackRecipient false, .new buybackAta false]

/-- `push_pumpswap_buy_accounts`, as the list it appends. -/
def pushPumpswapBuyAccounts (user userSolAta userMemeAta memeMint solMint baseTokenProgram
    quoteTokenProgram pool : Pubkey) (poolMeta : PumpSwapPoolMeta) : List AccountMeta :=
  pumpswapBuyFixed pda user userSolAta userMemeAta memeMint solMint baseTokenProgram
    quoteTokenProgram pool poolMeta ++
  pumpswapBuyRemaining pda user memeMint solMint quoteTokenProgram poolMeta

/-- The twenty-one fixed accounts that `push_pumpswap_sell_accounts` pushes. -/
def pumpswapSellFixed (user userSolAta userMemeAta memeMint solMint baseTokenProgram
    quoteTokenProgram pool : Pubkey) (poolMeta : PumpSwapPoolMeta) : List AccountMeta :=
  let protocolFeeRecipient := pickPumpswapProtocolFeeRecipient poolMeta.isMayhemMode
  let protocolFeeAta := ataAddr pda protocolFeeRecipient solMint quoteTokenProgram
  let creatorVaultAuthority := pumpswapCoinCreatorVaultAuthority pda poolMeta.coinCreator
  let creatorVaultAta :=
    pumpswapCoinCreatorVaultAta pda creatorVaultAuthority solMint quoteTokenProgram
  [.new pool false,
   .new user true,
   .newReadonly (.ofLiteral pumpswapGlobalConfig) false,
   .newReadonly memeMint false,
   .newReadonly solMint false,
   .new userMemeAta false,
   .new userSolAta false,
   .new poolMeta.poolBaseTokenAccount false,
   .new poolMeta.poolQuoteTokenAccount false,
   .newReadonly protocolFeeRecipient false,
   .new protocolFeeAta false,
   .newReadonly baseTokenProgram false,
   .newReadonly quoteTokenProgram false,
   .newReadonly (.ofLiteral systemProgram) false,
   .newReadonly (.ofLiteral ataProgram) false,
   .newReadonly (.ofLiteral pumpswapEventAuthority) false,
   .newReadonly (.ofLiteral pumpfunAmmProgram) false,
   .new creatorVaultAta false,
   .newReadonly creatorVaultAuthority false,
   .newReadonly (pumpswapFeeConfigPda pda) false,
   .newReadonly (.ofLiteral pumpswapFeeProgram) false]

/-- The remaining accounts of a sale: a cashback coin has one more than in a buy. -/
def pumpswapSellRemaining (user memeMint solMint quoteTokenProgram : Pubkey)
    (poolMeta : PumpSwapPoolMeta) : List AccountMeta :=
  let cashbackAta := pumpswapUserVolAccumulatorQuoteAta pda user solMint quoteTokenProgram
  let buybackRecipient : Pubkey := .ofLiteral pumpswapBuybackFeeRecipient
  let buybackAta := ataAddr pda buybackRecipient solMint quoteTokenProgram
  (if poolMeta.isCashbackCoin then
    [.new cashbackAta false, .new (pumpswapUserVolAccumulator pda user) false] else []) ++
  (if poolMeta.coinCreator ≠ .zero then
    [.newReadonly (pumpswapPoolV2Pda pda memeMint) false] else []) ++
  [.newReadonly buybackRecipient false, .new buybackAta false]

/-- `push_pumpswap_sell_accounts`, as the list it appends. -/
def pushPumpswapSellAccounts (user userSolAta userMemeAta memeMint solMint baseTokenProgram
    quoteTokenProgram pool : Pubkey) (poolMeta : PumpSwapPoolMeta) : List AccountMeta :=
  pumpswapSellFixed pda user userSolAta userMemeAta memeMint solMint baseTokenProgram
    quoteTokenProgram pool poolMeta ++
  pumpswapSellRemaining pda user memeMint solMint quoteTokenProgram poolMeta

end

/-- `pumpswap_buy_remaining_count`. -/
def pumpswapBuyRemainingCount (poolMeta : PumpSwapPoolMeta) : UInt8 :=
  2 + (if poolMeta.isCashbackCoin then 1 else 0) +
    (if poolMeta.coinCreator ≠ .zero then 1 else 0)

/-- `pumpswap_sell_remaining_count`. -/
def pumpswapSellRemainingCount (poolMeta : PumpSwapPoolMeta) : UInt8 :=
  2 + (if poolMeta.isCashbackCoin then 2 else 0) +
    (if poolMeta.coinCreator ≠ .zero then 1 else 0)

section

variable (pda : FindProgramAddress)
  (user userSolAta userMemeAta memeMint solMint baseTokenProgram quoteTokenProgram
    pool : Pubkey) (poolMeta : PumpSwapPoolMeta)

/-- The buy count is the number of remaining accounts of a buy. -/
theorem length_pumpswapBuyRemaining :
    (pumpswapBuyRemaining pda user memeMint solMint quoteTokenProgram poolMeta).length =
      (pumpswapBuyRemainingCount poolMeta).toNat := by
  rw [pumpswapBuyRemaining, pumpswapBuyRemainingCount]
  split_ifs <;> rfl

/-- The sell count is the number of remaining accounts of a sale. -/
theorem length_pumpswapSellRemaining :
    (pumpswapSellRemaining pda user memeMint solMint quoteTokenProgram poolMeta).length =
      (pumpswapSellRemainingCount poolMeta).toNat := by
  rw [pumpswapSellRemaining, pumpswapSellRemainingCount]
  split_ifs <;> rfl

/-- A sale of a cashback coin has one remaining account more than a buy, any other sale
equally many. -/
theorem sellRemainingCount_eq :
    (pumpswapSellRemainingCount poolMeta).toNat =
      (pumpswapBuyRemainingCount poolMeta).toNat +
        (if poolMeta.isCashbackCoin then 1 else 0) := by
  rw [pumpswapSellRemainingCount, pumpswapBuyRemainingCount]
  split_ifs <;> rfl

theorem sellRemainingCount_le : (pumpswapSellRemainingCount poolMeta).toNat ≤ 5 := by
  rw [pumpswapSellRemainingCount]
  split_ifs <;> decide

theorem buyRemainingCount_le : (pumpswapBuyRemainingCount poolMeta).toNat ≤ 4 := by
  rw [pumpswapBuyRemainingCount]
  split_ifs <;> decide

/-- The route builder pushes the accounts of the direct buy instruction. -/
theorem pushPumpswapBuyAccounts_eq (amount minimum : UInt64) (trackVolume : Bool) :
    pushPumpswapBuyAccounts pda user userSolAta userMemeAta memeMint solMint
        baseTokenProgram quoteTokenProgram pool poolMeta =
      (buildPumpswapBuyIx pda user pool memeMint solMint userMemeAta userSolAta
        poolMeta.poolBaseTokenAccount poolMeta.poolQuoteTokenAccount baseTokenProgram
        quoteTokenProgram amount minimum trackVolume poolMeta.coinCreator
        poolMeta.isCashbackCoin (.ofLiteral pumpswapBuybackFeeRecipient)
        (pickPumpswapProtocolFeeRecipient poolMeta.isMayhemMode)).accounts := rfl

/-- The route builder pushes the accounts of the direct sell instruction. -/
theorem pushPumpswapSellAccounts_eq (amount minimum : UInt64) :
    pushPumpswapSellAccounts pda user userSolAta userMemeAta memeMint solMint
        baseTokenProgram quoteTokenProgram pool poolMeta =
      (buildPumpswapSellIx pda user pool memeMint solMint userMemeAta userSolAta
        poolMeta.poolBaseTokenAccount poolMeta.poolQuoteTokenAccount baseTokenProgram
        quoteTokenProgram amount minimum poolMeta.coinCreator poolMeta.isCashbackCoin
        (.ofLiteral pumpswapBuybackFeeRecipient)
        (pickPumpswapProtocolFeeRecipient poolMeta.isMayhemMode)).accounts := rfl

end

end AtomicArbitrage.Client

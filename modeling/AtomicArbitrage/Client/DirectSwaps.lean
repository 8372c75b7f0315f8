import AtomicArbitrage.Client.Dlmm
import AtomicArbitrage.Client.PumpSwap

/-!
# Direct swaps

The builders for the pump.fun bonding curve, and the instruction data that all direct
builders write: a discriminator, the amount that goes in, the least amount that may come
out, and what the exchange asks for besides.
-/

namespace AtomicArbitrage.Client

open Word64
open Program (ascii)

/-! ## The bonding curve -/

def pumpfunBondingCurveProgram : String := "6EF8rrecthR5Dkzon8Nwu78hRvfCKubJ14M5uBEwF6P"
def sysvarRent : String := "SysvarRent111111111111111111111111111111111"

def pumpfunBuyDiscriminator : List UInt8 := [0x67, 0xf4, 0x52, 0x1f, 0x2c, 0xf5, 0x77, 0x77]
def pumpfunSellDiscriminator : List UInt8 := [0x3e, 0x2f, 0x37, 0x0a, 0xa5, 0x03, 0xdc, 0x2a]

section

variable (pda : FindProgramAddress)

def pumpfunGlobalPda : Pubkey := pda [ascii "global"] (.ofLiteral pumpfunBondingCurveProgram)

def pumpfunEventAuthorityPda : Pubkey :=
  pda [ascii "event-authority"] (.ofLiteral pumpfunBondingCurveProgram)

/-- The accounts of both bonding curve instructions. -/
def pumpfunAccounts (user mint bondingCurve associatedBondingCurve associatedUser feeRecipient
    tokenProg : Pubkey) : List AccountMeta :=
  [.newReadonly (pumpfunGlobalPda pda) false,
   .new user true,
   .newReadonly mint false,
   .new bondingCurve false,
   .new associatedBondingCurve false,
   .new associatedUser false,
   .new feeRecipient false,
   .newReadonly (.ofLiteral systemProgram) false,
   .newReadonly tokenProg false,
   .newReadonly (.ofLiteral ataProgram) false,
   .newReadonly (.ofLiteral sysvarRent) false,
   .newReadonly (pumpfunEventAuthorityPda pda) false,
   .newReadonly (.ofLiteral pumpfunBondingCurveProgram) false]

/-- `build_pumpfun_buy_ix`. -/
def buildPumpfunBuyIx (user mint bondingCurve associatedBondingCurve associatedUser
    feeRecipient : Pubkey) (amountLamports minAmountOut : UInt64) (tokenProg : Pubkey) :
    Instruction where
  programId := .ofLiteral pumpfunBondingCurveProgram
  accounts := pumpfunAccounts pda user mint bondingCurve associatedBondingCurve associatedUser
    feeRecipient tokenProg
  data := pumpfunBuyDiscriminator ++ (bytes amountLamports ++ bytes minAmountOut)

/-- `build_pumpfun_sell_ix`. -/
def buildPumpfunSellIx (user mint bondingCurve associatedBondingCurve associatedUser
    feeRecipient : Pubkey) (amountTokens minSolOut : UInt64) (tokenProg : Pubkey) :
    Instruction where
  programId := .ofLiteral pumpfunBondingCurveProgram
  accounts := pumpfunAccounts pda user mint bondingCurve associatedBondingCurve associatedUser
    feeRecipient tokenProg
  data := pumpfunSellDiscriminator ++ (bytes amountTokens ++ bytes minSolOut)

end

/-! ## The data of a direct swap -/

/-- The fields of the data that a direct builder writes. -/
structure SwapFields where
  discriminator : List UInt8
  amountIn : UInt64
  minAmountOut : UInt64
  rest : List UInt8
deriving DecidableEq

namespace SwapFields

def decode (data : List UInt8) : SwapFields where
  discriminator := data.take 8
  amountIn := readAt data 8
  minAmountOut := readAt data 16
  rest := data.drop 24

def encode (fields : SwapFields) : List UInt8 :=
  fields.discriminator ++ (bytes fields.amountIn ++ (bytes fields.minAmountOut ++ fields.rest))

variable {fields : SwapFields}

theorem length_encode (width : fields.discriminator.length = 8) :
    fields.encode.length = 24 + fields.rest.length := by
  simp only [encode, List.length_append, length_bytes, width]
  ring

/-- The words of a swap and the bytes in front of what the exchange asks for. -/
theorem take_drop_encode (width : fields.discriminator.length = 8) :
    fields.encode.take 16 = fields.discriminator ++ bytes fields.amountIn ∧
      fields.encode.drop 24 = fields.rest := by
  have front : (fields.discriminator ++ bytes fields.amountIn).length = 16 := by
    rw [List.length_append, width, length_bytes]
  have words :
      (fields.discriminator ++ bytes fields.amountIn ++ bytes fields.minAmountOut).length = 24 := by
    rw [List.length_append, front, length_bytes]
  constructor
  · rw [encode, ← List.append_assoc, ← front, List.take_left]
  · rw [encode, ← List.append_assoc, ← List.append_assoc, ← words, List.drop_left]

theorem decode_encode (width : fields.discriminator.length = 8) :
    decode fields.encode = fields := by
  have discriminator : fields.encode.take 8 = fields.discriminator := by
    rw [encode, ← width, List.take_left]
  have amountIn : readAt fields.encode 8 = fields.amountIn := readAt_field width
  have minAmountOut : readAt fields.encode 16 = fields.minAmountOut :=
    readAt_second (by rw [width])
  rw [decode, discriminator, amountIn, minAmountOut, (take_drop_encode width).2]

end SwapFields

/-! ## What the builders write -/

section

variable {pda : FindProgramAddress}

theorem buildPumpfunBuyIx_data {user mint bondingCurve associatedBondingCurve associatedUser
    feeRecipient tokenProg : Pubkey} {amountLamports minAmountOut : UInt64} :
    (buildPumpfunBuyIx pda user mint bondingCurve associatedBondingCurve associatedUser
        feeRecipient amountLamports minAmountOut tokenProg).data =
      SwapFields.encode ⟨pumpfunBuyDiscriminator, amountLamports, minAmountOut, []⟩ := by
  rw [SwapFields.encode, List.append_nil]
  rfl

theorem buildPumpfunSellIx_data {user mint bondingCurve associatedBondingCurve associatedUser
    feeRecipient tokenProg : Pubkey} {amountTokens minSolOut : UInt64} :
    (buildPumpfunSellIx pda user mint bondingCurve associatedBondingCurve associatedUser
        feeRecipient amountTokens minSolOut tokenProg).data =
      SwapFields.encode ⟨pumpfunSellDiscriminator, amountTokens, minSolOut, []⟩ := by
  rw [SwapFields.encode, List.append_nil]
  rfl

theorem buildPumpswapBuyIx_data {user pool baseMint quoteMint userBaseAta userQuoteAta
    poolBaseAta poolQuoteAta baseTokenProgram quoteTokenProgram coinCreator buybackRecipient
    protocolFeeRecipient : Pubkey} {spendableQuoteIn minBaseAmountOut : UInt64}
    {trackVolume isCashbackCoin : Bool} :
    (buildPumpswapBuyIx pda user pool baseMint quoteMint userBaseAta userQuoteAta poolBaseAta
        poolQuoteAta baseTokenProgram quoteTokenProgram spendableQuoteIn minBaseAmountOut
        trackVolume coinCreator isCashbackCoin buybackRecipient protocolFeeRecipient).data =
      SwapFields.encode ⟨pumpswapBuyDiscriminator, spendableQuoteIn, minBaseAmountOut,
        [if trackVolume then 1 else 0]⟩ := rfl

theorem buildPumpswapSellIx_data {user pool baseMint quoteMint userBaseAta userQuoteAta
    poolBaseAta poolQuoteAta baseTokenProgram quoteTokenProgram coinCreator buybackRecipient
    protocolFeeRecipient : Pubkey} {baseAmountIn minQuoteAmountOut : UInt64}
    {isCashbackCoin : Bool} :
    (buildPumpswapSellIx pda user pool baseMint quoteMint userBaseAta userQuoteAta poolBaseAta
        poolQuoteAta baseTokenProgram quoteTokenProgram baseAmountIn minQuoteAmountOut
        coinCreator isCashbackCoin buybackRecipient protocolFeeRecipient).data =
      SwapFields.encode ⟨pumpswapSellDiscriminator, baseAmountIn, minQuoteAmountOut, []⟩ := by
  rw [SwapFields.encode, List.append_nil]
  rfl

theorem buildDlmmSwap2Ix_data {user lbPair reserveX reserveY userTokenIn userTokenOut tokenXMint
    tokenYMint oracle eventAuthority tokenXProgram tokenYProgram memoProg eventProgram : Pubkey}
    {binArrays : List Pubkey} {amountIn minAmountOut : UInt64}
    {binArrayBitmapExtension hostFeeIn : Option Pubkey} :
    (buildDlmmSwap2Ix user lbPair binArrays reserveX reserveY userTokenIn userTokenOut tokenXMint
        tokenYMint oracle eventAuthority amountIn minAmountOut tokenXProgram tokenYProgram
        memoProg eventProgram binArrayBitmapExtension hostFeeIn).data =
      SwapFields.encode ⟨dlmmSwap2Discriminator, amountIn, minAmountOut, encode 4 0⟩ := rfl

end

end AtomicArbitrage.Client

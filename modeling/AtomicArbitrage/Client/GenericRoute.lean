import AtomicArbitrage.Client.Dlmm
import AtomicArbitrage.Client.PumpSwap

/-!
# Building the generic route

`build_generic_route` with the section data of the four exchanges.  The builder takes
optional data for each exchange and side and selects by a kind byte; `Section` is the
form in which the callers hold that data, and `buildRoute` passes it on the way every
caller does.
-/

namespace AtomicArbitrage.Client

open Outcome Word64
open Program (ascii)

/-- `WhirlpoolSectionData`. -/
structure WhirlpoolSectionData where
  pool : Pubkey
  vaultA : Pubkey
  vaultB : Pubkey
  tickArrays : Pubkey × Pubkey × Pubkey
  solIsX : Bool

/-- `CpmmSectionData`. -/
structure CpmmSectionData where
  pool : Pubkey
  config : Pubkey

/-- `PumpSwapSectionData`. -/
structure PumpSwapSectionData where
  pool : Pubkey
  poolMeta : PumpSwapPoolMeta
  remainingCount : UInt8

/-- `DlmmSectionData`. -/
structure DlmmSectionData where
  program : Pubkey
  lbPair : Pubkey
  bitmap : Pubkey
  reserveX : Pubkey
  reserveY : Pubkey
  oracle : Pubkey
  hostFee : Pubkey
  memo : Pubkey
  eventAuth : Pubkey
  tokenXMint : Pubkey
  tokenYMint : Pubkey
  tokenXProgram : Pubkey
  tokenYProgram : Pubkey
  binArrays : List Pubkey
  binCount : UInt8
deriving DecidableEq

/-- `dlmm_section_data`. -/
def dlmmSectionData (pda : FindProgramAddress) (dlmm : DlmmPoolReserves)
    (memeTokenProgram : Pubkey) : ClientResult DlmmSectionData := do
  let program : Pubkey := .ofLiteral dlmmProgram
  let lbPair ← parsePubkey dlmm.lbPair
  let bitmap := dlmm.bitmapExtension.getD program
  let reserveX ← parsePubkey dlmm.reserveXAddress
  let reserveY ← parsePubkey dlmm.reserveYAddress
  let oracle := dlmmOracle pda lbPair
  let tokenXMint ← parsePubkey dlmm.tokenXMint
  let tokenYMint ← parsePubkey dlmm.tokenYMint
  let binArrays ← dlmm.parseBinArrays
  pure { program, lbPair, bitmap, reserveX, reserveY, oracle, hostFee := program
         memo := .ofLiteral memoProgram, eventAuth := .ofLiteral dlmmEventAuthority
         tokenXMint, tokenYMint, tokenXProgram := .ofLiteral tokenProgram
         tokenYProgram := memeTokenProgram, binArrays
         binCount := .ofNat dlmm.binArrayCount }

/-- The count byte of resolved data is the number of its bin arrays. -/
theorem dlmmSectionData_binCount {pda : FindProgramAddress} {dlmm : DlmmPoolReserves}
    {memeTokenProgram : Pubkey} {d : DlmmSectionData}
    (resolved : dlmmSectionData pda dlmm memeTokenProgram = .ok d) :
    d.binCount.toNat = d.binArrays.length := by
  simp only [dlmmSectionData, bind_eq_ok, pure_eq_ok] at resolved
  rcases resolved with ⟨_, _, _, _, _, _, _, _, _, _, bins, binsParsed, rfl⟩
  have bounded : dlmm.binArrayCount ≤ 5 := Nat.min_le_right _ _
  rw [DlmmPoolReserves.length_parseBinArrays binsParsed]
  exact UInt8.toNat_ofNat_of_lt' (by unfold UInt8.size; omega)

/-- `pumpswap_section_data`: the count is the one of a buy, whichever side it is for. -/
def pumpswapSectionData (poolMeta : PumpSwapPoolMeta) (pool : Pubkey) :
    PumpSwapSectionData :=
  { pool, poolMeta, remainingCount := pumpswapBuyRemainingCount poolMeta }

/-! ## Account lists -/

section

variable (pda : FindProgramAddress)

/-- `push_cpmm_accounts`, as the list it appends. -/
def pushCpmmAccounts (pool inputMint outputMint inputAta outputAta memoProg token22
    ammConfig : Pubkey) : List AccountMeta :=
  let cpmmProg : Pubkey := .ofLiteral cpmmProgram
  let auth := pda [ascii "vault_and_lp", pool.bytes] cpmmProg
  let inputVault := pda [ascii "pool_vault", pool.bytes, inputMint.bytes] cpmmProg
  let outputVault := pda [ascii "pool_vault", pool.bytes, outputMint.bytes] cpmmProg
  [.newReadonly cpmmProg false,
   .newReadonly auth false,
   .newReadonly ammConfig false,
   .new pool false,
   .new inputAta false,
   .new outputAta false,
   .new inputVault false,
   .new outputVault false,
   .newReadonly inputMint false,
   .newReadonly outputMint false,
   .newReadonly (.ofLiteral tokenProgram) false,
   .newReadonly token22 false,
   .newReadonly memoProg false]

/-- `push_whirlpool_accounts`, as the list it appends.  The caller always passes three
tick arrays, so none is padded; the authority is flagged as a signer. -/
def pushWhirlpoolAccounts (pool inputAta outputAta vaultA vaultB : Pubkey)
    (tickArrays : Pubkey × Pubkey × Pubkey) : List AccountMeta :=
  let wp : Pubkey := .ofLiteral whirlpoolProgram
  let auth := pda [ascii "authority"] wp
  let oracle := pda [ascii "oracle", pool.bytes] wp
  [.newReadonly wp false,
   .newReadonly auth true,
   .new pool false,
   .new inputAta false,
   .new vaultA false,
   .new outputAta false,
   .new vaultB false,
   .new tickArrays.1 false,
   .new tickArrays.2.1 false,
   .new tickArrays.2.2 false,
   .newReadonly oracle false,
   .newReadonly (.ofLiteral tokenProgram) false]

/-- `push_pumpswap_generic_sell`: the sell accounts, then two accounts of padding that
follow the remaining ones. -/
def pushPumpswapGenericSell (user userSolAta userMemeAta memeMint solMint
    memeTokenProgram solTokenProgram pool : Pubkey) (poolMeta : PumpSwapPoolMeta) :
    List AccountMeta :=
  pushPumpswapSellAccounts pda user userSolAta userMemeAta memeMint solMint
    memeTokenProgram solTokenProgram pool poolMeta ++
  [.newReadonly (.ofLiteral systemProgram) false,
   .newReadonly (.ofLiteral systemProgram) false]

/-- The thirteen fixed accounts of the generic DLMM section. -/
def dlmmGenericFixed (d : DlmmSectionData) : List AccountMeta :=
  [.newReadonly d.program false,
   .new d.lbPair false,
   .new d.bitmap false,
   .new d.reserveX false,
   .new d.reserveY false,
   .new d.oracle false,
   .new d.hostFee false,
   .newReadonly d.memo false,
   .newReadonly d.eventAuth false,
   .newReadonly d.tokenXMint false,
   .newReadonly d.tokenYMint false,
   .newReadonly d.tokenXProgram false,
   .newReadonly d.tokenYProgram false]

/-- `push_dlmm_generic_accounts`, as the list it appends. -/
def pushDlmmGenericAccounts (d : DlmmSectionData) : List AccountMeta :=
  dlmmGenericFixed d ++ d.binArrays.map fun bin => .new bin false

/-! ## The builder -/

/-- The arguments of `build_generic_route` that do not depend on an exchange. -/
structure GenericArgs where
  walletPubkey : Pubkey
  userSolAta : Pubkey
  userMemeAta : Pubkey
  memeMint : Pubkey
  solMint : Pubkey
  investmentLamports : UInt64
  minMemeOut : UInt64
  minProfitLamports : UInt64
  buySolIsX : Bool
  memeTokenProgram : Pubkey
  solTokenProgram : Pubkey
  onchainProgramId : String

/-- The optional section data of one side. -/
structure SideData where
  cpmm : Option CpmmSectionData
  whirlpool : Option WhirlpoolSectionData
  pumpswap : Option PumpSwapSectionData
  dlmm : Option DlmmSectionData

/-- The buy section, by kind byte. -/
def buySection (args : GenericArgs) (kind : UInt8) (side : SideData) :
    ClientResult (List AccountMeta) :=
  if kind = dexKindPumpswap then do
    let d ← orFail side.pumpswap (.bail "missing PumpSwap buy data")
    pure (pushPumpswapBuyAccounts pda args.walletPubkey args.userSolAta args.userMemeAta
      args.memeMint args.solMint args.memeTokenProgram args.solTokenProgram d.pool d.poolMeta)
  else if kind = dexKindDlmm then do
    let d ← orFail side.dlmm (.bail "missing DLMM buy data")
    pure (pushDlmmGenericAccounts d)
  else if kind = dexKindCpmm then do
    let d ← orFail side.cpmm (.bail "missing CPMM buy data")
    pure (pushCpmmAccounts pda d.pool args.solMint args.memeMint args.userSolAta
      args.userMemeAta (.ofLiteral memoProgram) (.ofLiteral token22Program) d.config)
  else if kind = dexKindWhirlpool then do
    let d ← orFail side.whirlpool (.bail "missing Whirlpool buy data")
    pure (pushWhirlpoolAccounts pda d.pool args.userSolAta args.userMemeAta d.vaultA d.vaultB
      d.tickArrays)
  else .error (.bail ("unsupported buy DEX kind: " ++ toString kind.toNat))

/-- The sell section, by kind byte: mints and user accounts change places. -/
def sellSection (args : GenericArgs) (kind : UInt8) (side : SideData) :
    ClientResult (List AccountMeta) :=
  if kind = dexKindPumpswap then do
    let d ← orFail side.pumpswap (.bail "missing PumpSwap sell data")
    pure (pushPumpswapGenericSell pda args.walletPubkey args.userSolAta args.userMemeAta
      args.memeMint args.solMint args.memeTokenProgram args.solTokenProgram d.pool d.poolMeta)
  else if kind = dexKindDlmm then do
    let d ← orFail side.dlmm (.bail "missing DLMM sell data")
    pure (pushDlmmGenericAccounts d)
  else if kind = dexKindCpmm then do
    let d ← orFail side.cpmm (.bail "missing CPMM sell data")
    pure (pushCpmmAccounts pda d.pool args.memeMint args.solMint args.userMemeAta
      args.userSolAta (.ofLiteral memoProgram) (.ofLiteral token22Program) d.config)
  else if kind = dexKindWhirlpool then do
    let d ← orFail side.whirlpool (.bail "missing Whirlpool sell data")
    pure (pushWhirlpoolAccounts pda d.pool args.userMemeAta args.userSolAta d.vaultA d.vaultB
      d.tickArrays)
  else .error (.bail ("unsupported sell DEX kind: " ++ toString kind.toNat))

/-- The remaining count written for one side: none for Whirlpool, the bin count for
DLMM, otherwise the caller's. -/
def ixRemaining (kind : UInt8) (side : SideData) (remaining : UInt8) : UInt8 :=
  if kind = dexKindWhirlpool then 0
  else if kind = dexKindPumpswap then remaining
  else if kind = dexKindDlmm then (side.dlmm.map DlmmSectionData.binCount).getD 0
  else remaining

/-- The thirty-six bytes of the generic route. -/
def genericIxData (args : GenericArgs) (buyRemaining sellRemaining : UInt8) : List UInt8 :=
  routeDisc ++ (bytes args.investmentLamports ++ (bytes args.minProfitLamports ++
    (bytes args.minMemeOut ++
      [0, if args.buySolIsX then 1 else 0, buyRemaining, sellRemaining])))

/-- The three shared accounts. -/
def GenericArgs.shared (args : GenericArgs) : List AccountMeta :=
  [.new args.walletPubkey true, .new args.userSolAta false, .new args.userMemeAta false]

/-- `build_generic_route`. -/
def buildGenericRoute (args : GenericArgs) (buyKind sellKind : UInt8)
    (buySide sellSide : SideData) (buyRemaining sellRemaining : UInt8) :
    ClientResult Instruction := do
  let arbProgramId ← parsePubkey args.onchainProgramId
  let buyAccounts ← buySection pda args buyKind buySide
  let sellAccounts ← sellSection pda args sellKind sellSide
  pure { programId := arbProgramId
         accounts := args.shared ++ (buyAccounts ++ sellAccounts)
         data := genericIxData args (ixRemaining buyKind buySide buyRemaining)
           (ixRemaining sellKind sellSide sellRemaining) }

end

/-! ## The callers' view -/

/-- The data of one leg, as the transaction builders hold it. -/
inductive Section where
  | pumpSwap (data : PumpSwapSectionData)
  | dlmm (data : DlmmSectionData)
  | cpmm (data : CpmmSectionData)
  | whirlpool (data : WhirlpoolSectionData)

namespace Section

/-- The kind byte of a section. -/
def kindByte : Section → UInt8
  | pumpSwap _ => dexKindPumpswap
  | dlmm _ => dexKindDlmm
  | cpmm _ => dexKindCpmm
  | whirlpool _ => dexKindWhirlpool

/-- The section in its own slot of a side, the other slots empty. -/
def side : Section → SideData
  | pumpSwap data => { cpmm := none, whirlpool := none, pumpswap := some data, dlmm := none }
  | dlmm data => { cpmm := none, whirlpool := none, pumpswap := none, dlmm := some data }
  | cpmm data => { cpmm := some data, whirlpool := none, pumpswap := none, dlmm := none }
  | whirlpool data =>
      { cpmm := none, whirlpool := some data, pumpswap := none, dlmm := none }

/-- The remaining count that the transaction builders pass for a section. -/
def remaining : Section → UInt8
  | pumpSwap data => data.remainingCount
  | dlmm data => data.binCount
  | cpmm _ => 0
  | whirlpool _ => 0

end Section

/-- `build_generic_route`, called for two sections as every transaction builder does. -/
def buildRoute (pda : FindProgramAddress) (args : GenericArgs) (buy sell : Section) :
    ClientResult Instruction :=
  buildGenericRoute pda args buy.kindByte sell.kindByte buy.side sell.side buy.remaining
    sell.remaining

end AtomicArbitrage.Client

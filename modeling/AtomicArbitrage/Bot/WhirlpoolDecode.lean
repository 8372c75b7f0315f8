import AtomicArbitrage.Bot.CpmmFetch
import AtomicArbitrage.Bot.Extract
import AtomicArbitrage.Bot.Rpc

/-!
# Decoding Whirlpool accounts

Three functions read the account of a Whirlpool: the fetch by pair, which searches the
pool among its possible tick spacings, the fetch by address, and the extractor of the
listener, which takes the address from a transaction.  Each has its own offsets and rules.
-/

namespace AtomicArbitrage.Bot

open Program (ascii)

/-- `DlmmPoolReserves` of a Whirlpool; bins, bin arrays, base factor, active bin and bitmap
extension stay empty. -/
structure WhirlpoolReserves where
  lbPair : String
  tokenXMint : String
  tokenYMint : String
  reserveX : UInt64
  reserveY : UInt64
  reserveXAddress : String
  reserveYAddress : String
  binStep : ℕ
  sqrtPrice : ℕ
  tickCurrentIndex : ℤ
  feeRate : ℕ
deriving DecidableEq

/-- Common tick spacings, ordered by likelihood. -/
def tickSpacings : List ℕ := [64, 128, 1, 8, 256, 32]

def tokenMintAOff : ℕ := 101
def tokenVaultAOff : ℕ := 133
def tokenMintBOff : ℕ := 181
def tokenVaultBOff : ℕ := 213
def minDataLen : ℕ := 245
def sqrtPriceOff : ℕ := 65
def tickCurrentIndexOff : ℕ := 81
def feeRateOff : ℕ := 45

/-! ## The fetchers -/

section

variable (pda : FindProgramAddress)

/-- The address of the pool of a pair with a tick spacing. -/
def whirlpoolPda (mintA mintB : Pubkey) (tickSpacing : ℕ) : Pubkey :=
  pda
    [ascii "whirlpool", (Pubkey.ofLiteral Client.whirlpoolConfig).bytes, mintA.bytes,
      mintB.bytes, Word64.encode 2 tickSpacing]
    (.ofLiteral Client.whirlpoolProgram)

/-- An account that the search accepts. -/
def isWhirlpool (account : RpcAccount) : Bool :=
  account.owner = .ofLiteral Client.whirlpoolProgram ∧ account.data.length ≥ minDataLen

/-- The first tick spacing whose address holds a Whirlpool, with the address and the
account. -/
def findWhirlpool (rpc : Rpc) (mintA mintB : Pubkey) : Option (Pubkey × ℕ × RpcAccount) := do
  let candidates := tickSpacings.map fun ts => (whirlpoolPda pda mintA mintB ts, ts)
  let results ← rpc.getMultipleAccounts (candidates.map Prod.fst)
  let foundIdx ← results.findIdx? fun account => account.any isWhirlpool
  let (poolAddr, tickSpacing) ← candidates[foundIdx]?
  let account ← results[foundIdx]?.join
  pure (poolAddr, tickSpacing, account)

/-- `fetch_whirlpool_pool`. -/
def fetchWhirlpoolPool (rpc : Rpc) (t0 t1 : String) : Option WhirlpoolReserves := do
  let (mintA, mintB) := sortMints t0 t1
  let mintAPk ← Pubkey.fromStr? mintA
  let mintBPk ← Pubkey.fromStr? mintB
  let (poolAddr, tickSpacing, account) ← findWhirlpool pda rpc mintAPk mintBPk
  let poolData := account.data
  let tokenMintA ← readPubkey poolData tokenMintAOff
  let tokenMintB ← readPubkey poolData tokenMintBOff
  let vaultA ← readPubkey poolData tokenVaultAOff
  let vaultB ← readPubkey poolData tokenVaultBOff
  let sqrtPrice := (readUnsigned poolData sqrtPriceOff 16).getD 0
  let tickCurrentIndex := (readI32 poolData tickCurrentIndexOff).getD 0
  let feeRate ← readUnsigned poolData feeRateOff 2
  let vaultAPk ← Pubkey.fromStr? vaultA
  let vaultBPk ← Pubkey.fromStr? vaultB
  let (amtA, amtB) := vaultBalances rpc vaultAPk vaultBPk
  let (reserveX, reserveY) := if tokenMintA = mintA then (amtA, amtB) else (amtB, amtA)
  pure
    { lbPair := poolAddr.toBase58
      tokenXMint := tokenMintA
      tokenYMint := tokenMintB
      reserveX
      reserveY
      reserveXAddress := vaultA
      reserveYAddress := vaultB
      binStep := tickSpacing
      sqrtPrice
      tickCurrentIndex
      feeRate }

end

/-- `fetch_whirlpool_by_address`. -/
def fetchWhirlpoolByAddress (rpc : Rpc) (poolAddr : String) : Option WhirlpoolReserves := do
  let poolPk ← Pubkey.fromStr? poolAddr
  let account ← rpc.getAccount poolPk
  let data := account.data
  if data.length < minDataLen then none
  let tokenMintA ← readPubkey data tokenMintAOff
  let tokenMintB ← readPubkey data tokenMintBOff
  let vaultA ← readPubkey data tokenVaultAOff
  let vaultB ← readPubkey data tokenVaultBOff
  let sqrtPrice ← readUnsigned data sqrtPriceOff 16
  let tickCurrentIndex ← readI32 data tickCurrentIndexOff
  let feeRate ← readUnsigned data feeRateOff 2
  let vaultAPk ← Pubkey.fromStr? vaultA
  let vaultBPk ← Pubkey.fromStr? vaultB
  let (amtA, amtB) := vaultBalances rpc vaultAPk vaultBPk
  pure
    { lbPair := poolAddr
      tokenXMint := tokenMintA
      tokenYMint := tokenMintB
      reserveX := amtA
      reserveY := amtB
      reserveXAddress := vaultA
      reserveYAddress := vaultB
      binStep := 0
      sqrtPrice
      tickCurrentIndex
      feeRate }

/-! ## The extractor -/

/-- The pool of a Whirlpool swap: its third account. -/
def readWhirlpoolAddr (accountKeys : List String) (ix : Json) : Option String := do
  let accounts ← ix.get "accounts"
  let items ← accounts.asArray
  let acctIndices := items.filterMap Json.asU64
  accountKeys[← acctIndices[2]?]?

/-- `extract_whirlpool_from_tx`, of the response to `getTransaction` and of the answers to
`getAccountInfo`, decoded from their base 64. -/
def extractWhirlpoolFromTx (accountInfo : String → Option (List UInt8)) (resp : Json) :
    Option (String × String × String) := do
  let poolAddr ← extractFromTx Client.whirlpoolProgram readWhirlpoolAddr resp
  let data ← accountInfo poolAddr
  if data.length < 243 then none
  let mintA ← readPubkey data 99
  let mintB ← readPubkey data 179
  pure (mintA, mintB, poolAddr)

/-- `getAccountInfo`, from these accounts. -/
def Chain.accountInfo (chain : Chain) (address : String) : Option (List UInt8) := do
  let key ← Pubkey.fromStr? address
  let account ← chain key
  pure account.data

/-! ## Fields -/

/-- The fields of a Whirlpool account at the offsets of the fetchers. -/
structure WhirlpoolFields where
  mintA : Pubkey
  mintB : Pubkey
  vaultA : Pubkey
  vaultB : Pubkey
  sqrtPrice : ℕ
  tickCurrentIndex : ℤ
  feeRate : ℕ

namespace WhirlpoolFields

/-- These are the fields of the data. -/
structure Of (fields : WhirlpoolFields) (data : List UInt8) : Prop where
  mintA : readKey data tokenMintAOff = some fields.mintA
  mintB : readKey data tokenMintBOff = some fields.mintB
  vaultA : readKey data tokenVaultAOff = some fields.vaultA
  vaultB : readKey data tokenVaultBOff = some fields.vaultB
  sqrtPrice : readUnsigned data sqrtPriceOff 16 = some fields.sqrtPrice
  tickCurrentIndex : readI32 data tickCurrentIndexOff = some fields.tickCurrentIndex
  feeRate : readUnsigned data feeRateOff 2 = some fields.feeRate

/-- The record of these fields. -/
def record (fields : WhirlpoolFields) (pool : Pubkey) (binStep : ℕ)
    (reserves : UInt64 × UInt64) : WhirlpoolReserves where
  lbPair := pool.toBase58
  tokenXMint := fields.mintA.toBase58
  tokenYMint := fields.mintB.toBase58
  reserveX := reserves.1
  reserveY := reserves.2
  reserveXAddress := fields.vaultA.toBase58
  reserveYAddress := fields.vaultB.toBase58
  binStep
  sqrtPrice := fields.sqrtPrice
  tickCurrentIndex := fields.tickCurrentIndex
  feeRate := fields.feeRate

end WhirlpoolFields

/-- An account that is long enough has all fields. -/
theorem exists_fields {data : List UInt8} (long : minDataLen ≤ data.length) :
    ∃ fields : WhirlpoolFields, fields.Of data := by
  rw [minDataLen] at long
  have inside {field : ℕ} (fits : field ≤ 245) : field ≤ data.length := fits.trans long
  rcases exists_readKey (inside (by decide : tokenMintAOff + 32 ≤ 245)) with ⟨mintA, mintAAt, _⟩
  rcases exists_readKey (inside (by decide : tokenMintBOff + 32 ≤ 245)) with ⟨mintB, mintBAt, _⟩
  rcases exists_readKey (inside (by decide : tokenVaultAOff + 32 ≤ 245)) with
    ⟨vaultA, vaultAAt, _⟩
  rcases exists_readKey (inside (by decide : tokenVaultBOff + 32 ≤ 245)) with
    ⟨vaultB, vaultBAt, _⟩
  rcases exists_readUnsigned (inside (by decide : sqrtPriceOff + 16 ≤ 245)) with
    ⟨sqrtPrice, sqrtPriceAt⟩
  rcases exists_readI32 (inside (by decide : tickCurrentIndexOff + 4 ≤ 245)) with
    ⟨tick, tickAt⟩
  rcases exists_readUnsigned (inside (by decide : feeRateOff + 2 ≤ 245)) with
    ⟨feeRate, feeRateAt⟩
  exact ⟨⟨mintA, mintB, vaultA, vaultB, sqrtPrice, tick, feeRate⟩, mintAAt, mintBAt, vaultAAt,
    vaultBAt, sqrtPriceAt, tickAt, feeRateAt⟩

section

variable {pda : FindProgramAddress} {chain : Chain} {t0 t1 : String}

/-- A search finds one of the derived addresses, and a Whirlpool there. -/
theorem findWhirlpool_eq_some {mintA mintB pool : Pubkey} {tickSpacing : ℕ}
    {account : RpcAccount}
    (found : findWhirlpool pda (.ofChain chain) mintA mintB = some (pool, tickSpacing, account)) :
    tickSpacing ∈ tickSpacings ∧ chain pool = some account ∧
      minDataLen ≤ account.data.length := by
  simp only [findWhirlpool, Rpc.ofChain, Option.bind_eq_bind, Option.bind_eq_some_iff,
    Option.some_inj, List.map_map, Option.pure_def] at found
  rcases found with ⟨results, rfl, index, first, ⟨candidate, spacing⟩, candidateAt, held,
    accountAt, result⟩
  rw [Prod.mk.injEq, Prod.mk.injEq] at result
  rcases result with ⟨rfl, rfl, rfl⟩
  rw [List.getElem?_map, Option.map_eq_some_iff] at candidateAt
  rcases candidateAt with ⟨spacing, spacingAt, candidate⟩
  rw [Prod.mk.injEq] at candidate
  rcases candidate with ⟨rfl, rfl⟩
  rw [List.getElem?_map, spacingAt] at accountAt
  rcases List.findIdx?_eq_some_iff_getElem.mp first with ⟨inside, accepted, _⟩
  have here := List.getElem?_eq_getElem inside
  rw [List.getElem?_map, spacingAt, Option.map_some, Option.some_inj] at here
  have answer : chain (whirlpoolPda pda mintA mintB spacing) = some held := accountAt
  have answer' := here.symm.trans answer
  rw [answer', Option.any_some, isWhirlpool, decide_eq_true_iff] at accepted
  exact ⟨List.mem_of_getElem? spacingAt, answer, accepted.2⟩

/-- A fetch by address has the reserves of the two vaults as they stand in the account, and
no tick spacing. -/
theorem fetchWhirlpoolByAddress_eq {pool : Pubkey} {account : RpcAccount}
    {fields : WhirlpoolFields} (held : chain pool = some account)
    (long : minDataLen ≤ account.data.length) (own : fields.Of account.data) :
    fetchWhirlpoolByAddress (.ofChain chain) pool.toBase58 =
      some (fields.record pool 0 (chain.balance fields.vaultA, chain.balance fields.vaultB)) := by
  have answered : (Rpc.ofChain chain).getAccount pool = some account := held
  simp only [fetchWhirlpoolByAddress, Pubkey.fromStr?_toBase58, Option.bind_eq_bind,
    Option.bind_some, answered, if_neg (Nat.not_lt.mpr long), readPubkey, own.mintA, own.mintB,
    own.vaultA, own.vaultB, own.sqrtPrice, own.tickCurrentIndex, own.feeRate, Option.map_some]
  rfl

/-- The reserves in a record of a fetch by pair: exchanged unless the account's first mint
is the first one of the request in text order. -/
def pairReserves (chain : Chain) (fields : WhirlpoolFields) (low : Pubkey) : UInt64 × UInt64 :=
  if fields.mintA = low then (chain.balance fields.vaultA, chain.balance fields.vaultB)
  else (chain.balance fields.vaultB, chain.balance fields.vaultA)

theorem fetchWhirlpoolPool_eq {low high pool : Pubkey} {tickSpacing : ℕ}
    {account : RpcAccount} {fields : WhirlpoolFields}
    (sorted : sortMints t0 t1 = (low.toBase58, high.toBase58))
    (found : findWhirlpool pda (.ofChain chain) low high = some (pool, tickSpacing, account))
    (own : fields.Of account.data) :
    fetchWhirlpoolPool pda (.ofChain chain) t0 t1 =
      some (fields.record pool tickSpacing (pairReserves chain fields low)) := by
  simp only [fetchWhirlpoolPool, sorted, Pubkey.fromStr?_toBase58, Option.bind_eq_bind,
    Option.bind_some, found, readPubkey, own.mintA, own.mintB, own.vaultA, own.vaultB,
    own.sqrtPrice, own.tickCurrentIndex, own.feeRate, Option.map_some, Option.getD_some,
    Pubkey.toBase58_injective.eq_iff, pairReserves, vaultBalances_ofChain]
  split
  · rfl
  · rfl

/-- What a successful fetch by pair has found. -/
theorem fetchWhirlpoolPool_eq_some {record : WhirlpoolReserves}
    (fetched : fetchWhirlpoolPool pda (.ofChain chain) t0 t1 = some record) :
    ∃ (low high pool : Pubkey) (tickSpacing : ℕ) (account : RpcAccount)
        (fields : WhirlpoolFields),
      sortMints t0 t1 = (low.toBase58, high.toBase58) ∧ tickSpacing ∈ tickSpacings ∧
        chain pool = some account ∧ minDataLen ≤ account.data.length ∧
        fields.Of account.data ∧
        record = fields.record pool tickSpacing (pairReserves chain fields low) := by
  have shape := fetched
  simp only [fetchWhirlpoolPool, Option.bind_eq_bind, Option.bind_eq_some_iff] at shape
  rcases shape with ⟨low, lowParsed, high, highParsed, ⟨pool, spacing, account⟩, found, _⟩
  rcases findWhirlpool_eq_some found with ⟨listed, held, long⟩
  rcases exists_fields long with ⟨fields, own⟩
  have sorted : sortMints t0 t1 = (low.toBase58, high.toBase58) := by
    rw [Pubkey.toBase58_of_fromStr? lowParsed, Pubkey.toBase58_of_fromStr? highParsed]
  rw [fetchWhirlpoolPool_eq sorted found own, Option.some_inj] at fetched
  exact ⟨low, high, pool, spacing, account, fields, sorted, listed, held, long, own,
    fetched.symm⟩

/-! ## Agreement -/

/-- What the three readers of one account should agree on. -/
structure DecodersAgree (chain : Chain) (resp : Json) (record : WhirlpoolReserves) :
    Prop where
  extracted : extractWhirlpoolFromTx chain.accountInfo resp =
    some (record.tokenXMint, record.tokenYMint, record.lbPair)
  byAddress : fetchWhirlpoolByAddress (.ofChain chain) record.lbPair = some record
  reserveX : ∃ vault : Pubkey, record.reserveXAddress = vault.toBase58 ∧
    record.reserveX = chain.balance vault
  reserveY : ∃ vault : Pubkey, record.reserveYAddress = vault.toBase58 ∧
    record.reserveY = chain.balance vault

/-- The extractor's offsets, two bytes before those of the fetchers, hold the same bytes. -/
def OffsetsAgree (data : List UInt8) : Prop :=
  (data.drop 99).take 32 = (data.drop tokenMintAOff).take 32 ∧
    (data.drop 179).take 32 = (data.drop tokenMintBOff).take 32

/-- The extractor and the fetchers read the same mints exactly when the data repeats itself
at a distance of two bytes. -/
theorem extractWhirlpool_iff {resp : Json} {pool : Pubkey} {account : RpcAccount}
    {fields : WhirlpoolFields}
    (named : extractFromTx Client.whirlpoolProgram readWhirlpoolAddr resp = some pool.toBase58)
    (held : chain pool = some account) (long : minDataLen ≤ account.data.length)
    (own : fields.Of account.data) :
    extractWhirlpoolFromTx chain.accountInfo resp =
        some (fields.mintA.toBase58, fields.mintB.toBase58, pool.toBase58) ↔
      OffsetsAgree account.data := by
  have long' : 245 ≤ account.data.length := long
  have bytes {offset : ℕ} {key : Pubkey} (keyAt : readKey account.data offset = some key)
      (inside : offset + 32 ≤ account.data.length) :
      (account.data.drop offset).take 32 = key.bytes := by
    rcases exists_readKey inside with ⟨other, otherAt, window⟩
    rw [keyAt, Option.some_inj] at otherAt
    rw [← window, otherAt]
  have same_iff (left right : Pubkey) : left = right ↔ left.bytes = right.bytes :=
    ⟨congrArg Pubkey.bytes, Pubkey.ext_bytes⟩
  have insideA : 99 + 32 ≤ account.data.length := by omega
  have insideB : 179 + 32 ≤ account.data.length := by omega
  rcases exists_readKey insideA with ⟨mintA, mintAAt, windowA⟩
  rcases exists_readKey insideB with ⟨mintB, mintBAt, windowB⟩
  have info : chain.accountInfo pool.toBase58 = some account.data := by
    simp only [Chain.accountInfo, Pubkey.fromStr?_toBase58, Option.bind_eq_bind,
      Option.bind_some, held]
    rfl
  have result : extractWhirlpoolFromTx chain.accountInfo resp =
      some (mintA.toBase58, mintB.toBase58, pool.toBase58) := by
    have enough : ¬account.data.length < 243 := by omega
    simp only [extractWhirlpoolFromTx, named, Option.bind_eq_bind, Option.bind_some, info,
      if_neg enough, readPubkey, mintAAt, mintBAt, Option.map_some]
    rfl
  rw [result, Option.some_inj, Prod.mk.injEq, Prod.mk.injEq,
    Pubkey.toBase58_injective.eq_iff, Pubkey.toBase58_injective.eq_iff, same_iff, same_iff,
    windowA, windowB, OffsetsAgree,
    bytes own.mintA (by rw [tokenMintAOff]; omega),
    bytes own.mintB (by rw [tokenMintBOff]; omega)]
  simp

/-- The three readers never agree on a pool that the fetch by pair finds.  The two fetchers
differ in the tick spacing always, in the reserves unless the account's first mint is the
first one of the request in text order or the balances are equal, and in nothing else; the
extractor reads other mints unless the data repeats itself. -/
theorem decoders_disagree {record : WhirlpoolReserves}
    (fetched : fetchWhirlpoolPool pda (.ofChain chain) t0 t1 = some record) :
    (∀ resp, ¬DecodersAgree chain resp record) ∧
      ∃ data byAddress, chain.accountInfo record.lbPair = some data ∧
        fetchWhirlpoolByAddress (.ofChain chain) record.lbPair = some byAddress ∧
        record.binStep ∈ tickSpacings ∧ byAddress.binStep = 0 ∧
        (record.reserveX = byAddress.reserveX ∧ record.reserveY = byAddress.reserveY ↔
          record.tokenXMint = (sortMints t0 t1).1 ∨ byAddress.reserveX = byAddress.reserveY) ∧
        record = { byAddress with
          reserveX := record.reserveX, reserveY := record.reserveY, binStep := record.binStep } ∧
        ∀ resp, extractFromTx Client.whirlpoolProgram readWhirlpoolAddr resp =
            some record.lbPair →
          (extractWhirlpoolFromTx chain.accountInfo resp =
              some (record.tokenXMint, record.tokenYMint, record.lbPair) ↔
            OffsetsAgree data) := by
  rcases fetchWhirlpoolPool_eq_some fetched with ⟨low, high, pool, spacing, account, fields,
    sorted, listed, held, long, own, rfl⟩
  have byAddress := fetchWhirlpoolByAddress_eq held long own
  have info : chain.accountInfo pool.toBase58 = some account.data := by
    simp only [Chain.accountInfo, Pubkey.fromStr?_toBase58, Option.bind_eq_bind,
      Option.bind_some, held]
    rfl
  have spaced : spacing ≠ 0 := by
    rintro rfl
    exact absurd listed (by decide)
  constructor
  · intro resp agree
    have same := byAddress.symm.trans agree.byAddress
    rw [Option.some_inj] at same
    exact spaced (congrArg WhirlpoolReserves.binStep same).symm
  · refine ⟨account.data, _, info, byAddress, listed, rfl, ?_, rfl, ?_⟩
    · rw [sorted]
      simp only [WhirlpoolFields.record, pairReserves, Pubkey.toBase58_injective.eq_iff]
      by_cases first : fields.mintA = low
      · simp [first]
      · simp [first, eq_comm]
    · intro resp named
      exact extractWhirlpool_iff named held long own

end

theorem readWhirlpoolAddr_render {tx : FetchedTransaction} (ix : InnerInstruction) :
    readWhirlpoolAddr tx.accountKeys ix.render = tx.staticKey ix 2 := by
  simp only [readWhirlpoolAddr, InnerInstruction.get_accounts, FetchedTransaction.staticKey_eq,
    Json.asArray_array, indices_render, Option.bind_eq_bind, Option.bind_some]

/-! ## A sample pool -/

/-- The derived address of the first candidate for the dollar and wrapped SOL. -/
def sampleWhirlpoolKey : Pubkey := .ofLiteral "3rjEoEn4uaUo62oZ24pTmUzndp4DDvcQyFpm81wc18Qw"

/-- The deployed derivation, as far as the sample needs it. -/
def sampleWhirlpoolPda : FindProgramAddress := fun seeds _ =>
  let spacings : List (ℕ × String) :=
    [(64, "3rjEoEn4uaUo62oZ24pTmUzndp4DDvcQyFpm81wc18Qw"),
     (128, "3VBxgJE2YmLYc3yXTnqAz9PpmZTaH74zyfvqZK7poWwe"),
     (1, "4Vi3pJ3uvy4D9Cmmg6pb1yGdR72PEs6ekHCHUb4Qk2Mu"),
     (8, "HNYs7XSAuNTNVhcTxn89Hic14peCsLcmc4aVJP5kEgye"),
     (256, "4hYgbynxxk3nsBfWfcGdPYcTCxB1QE1Qnb5LSRPHaamD"),
     (32, "jtsuZMGDUmX8waWWqmqffQpcq9d2qsbxxXFtiZibmnr")]
  let spacing? := spacings.find? fun entry => seeds.getLast? = some (Word64.encode 2 entry.1)
  (spacing?.map fun entry => Pubkey.ofLiteral entry.2).getD .zero

/-- The account of the pool, with its two vaults. -/
def sampleWhirlpoolAccount : RpcAccount where
  owner := .ofLiteral Client.whirlpoolProgram
  data := List.replicate 101 0 ++ (sampleUsdc.bytes ++ ((Pubkey.ofNat 7).bytes ++
    (List.replicate 16 0 ++ (sampleSol.bytes ++ (Pubkey.ofNat 8).bytes))))

def sampleWhirlpoolChain : Chain := fun key =>
  if key = sampleWhirlpoolKey then some sampleWhirlpoolAccount else none

theorem sampleWhirlpool_found :
    findWhirlpool sampleWhirlpoolPda (.ofChain sampleWhirlpoolChain) sampleUsdc sampleSol =
      some (sampleWhirlpoolKey, 64, sampleWhirlpoolAccount) := by
  decide +kernel

/-- A transaction with a swap in the pool. -/
def sampleWhirlpoolTx : FetchedTransaction where
  accountKeys := [Client.whirlpoolProgram, sampleWhirlpoolKey.toBase58]
  loadedWritable := []
  loadedReadonly := []
  innerInstructions := [[{ programIdIndex := 0, accounts := [0, 0, 1] }]]

theorem sampleWhirlpoolTx_named :
    extractFromTx Client.whirlpoolProgram readWhirlpoolAddr sampleWhirlpoolTx.response =
      some sampleWhirlpoolKey.toBase58 := by
  rw [extractFromTx_response]
  have read (ix : InnerInstruction) :
      readWhirlpoolAddr sampleWhirlpoolTx.accountKeys ix.render =
        sampleWhirlpoolTx.staticKey ix 2 := readWhirlpoolAddr_render ix
  simp only [read]
  rfl

/-- On the sample the readers disagree, whatever transaction the extractor is given. -/
theorem decoders_disagree_sample :
    ∃ record, fetchWhirlpoolPool sampleWhirlpoolPda (.ofChain sampleWhirlpoolChain)
        Client.nativeSolMint Client.usdcMint = some record ∧
      ∀ resp, ¬DecodersAgree sampleWhirlpoolChain resp record := by
  have long : minDataLen ≤ sampleWhirlpoolAccount.data.length := by decide +kernel
  rcases exists_fields long with ⟨fields, own⟩
  have fetched := fetchWhirlpoolPool_eq sortMints_sample sampleWhirlpool_found own
  exact ⟨_, fetched, (decoders_disagree fetched).1⟩

/-- The readers do not agree on every account. -/
theorem decoders_not_agree :
    ¬∀ (pda : FindProgramAddress) (chain : Chain) (t0 t1 : String)
        (record : WhirlpoolReserves) (resp : Json),
      fetchWhirlpoolPool pda (.ofChain chain) t0 t1 = some record →
        extractFromTx Client.whirlpoolProgram readWhirlpoolAddr resp = some record.lbPair →
          DecodersAgree chain resp record := by
  intro agree
  have long : minDataLen ≤ sampleWhirlpoolAccount.data.length := by decide +kernel
  have held : sampleWhirlpoolChain sampleWhirlpoolKey = some sampleWhirlpoolAccount := if_pos rfl
  rcases exists_fields long with ⟨fields, own⟩
  have fetched := fetchWhirlpoolPool_eq sortMints_sample sampleWhirlpool_found own
  have same := (agree _ _ _ _ _ _ fetched sampleWhirlpoolTx_named).byAddress
  have records := (fetchWhirlpoolByAddress_eq held long own).symm.trans same
  have steps : 0 = 64 := congrArg WhirlpoolReserves.binStep (Option.some_inj.mp records)
  exact absurd steps (by decide)

end AtomicArbitrage.Bot

import AtomicArbitrage.Bot.CpmmCache
import AtomicArbitrage.Bot.MintOrder
import AtomicArbitrage.Bot.Rpc

/-!
# Fetching a CPMM pool

A pool is fetched by its pair or by its address.  The fetch by pair derives the vaults
from the requested mints in text order, the fetch by address from the mints that the
account itself names.
-/

namespace AtomicArbitrage.Bot

open Program (ascii)

def token0MintOffset : ℕ := 168
def token1MintOffset : ℕ := 200

section

variable (pda : FindProgramAddress)

/-- The address of the pool of a pair under a configuration. -/
def cpmmPoolPda (config t0 t1 : Pubkey) : Pubkey :=
  pda [ascii "pool", config.bytes, t0.bytes, t1.bytes] (.ofLiteral Client.cpmmProgram)

/-- The address of the vault of a pool for a mint. -/
def cpmmVaultPda (pool mint : Pubkey) : Pubkey :=
  pda [ascii "pool_vault", pool.bytes, mint.bytes] (.ofLiteral Client.cpmmProgram)

/-- The address of a configuration: its index is big-endian. -/
def cpmmConfigPda (index : ℕ) : Pubkey :=
  pda [ascii "amm_config", Pubkey.bigEndian 2 index] (.ofLiteral Client.cpmmProgram)

/-- The pool of a pair and its configuration: the usual one, or the first of four others
that has an account. -/
def findCpmmPool (rpc : Rpc) (t0 t1 : Pubkey) : Option (Pubkey × Pubkey) :=
  let config0 : Pubkey := .ofLiteral Client.cpmmAmmConfig
  let pool0 := cpmmPoolPda pda config0 t0 t1
  if (rpc.getAccount pool0).isSome then some (pool0, config0)
  else do
    let configs := [1, 2, 3, 4].map fun index =>
      (cpmmConfigPda pda index, cpmmPoolPda pda (cpmmConfigPda pda index) t0 t1)
    let results ← rpc.getMultipleAccounts (configs.map Prod.snd)
    let found ← results.findIdx? Option.isSome
    let (config, pool) ← configs[found]?
    pure (pool, config)

/-- `fetch_cpmm_pool`. -/
def fetchCpmmPool (rpc : Rpc) (t0 t1 : String) : Option PoolStateData := do
  let (token0, token1) := sortMints t0 t1
  let t0Pk ← Pubkey.fromStr? token0
  let t1Pk ← Pubkey.fromStr? token1
  let (poolAddr, configUsed) ← findCpmmPool pda rpc t0Pk t1Pk
  let account ← rpc.getAccount poolAddr
  let data := account.data
  if data.length < 232 then none
  let stateMint0 ← readPubkey data token0MintOffset
  let stateMint1 ← readPubkey data token1MintOffset
  if (stateMint0 ≠ token0 ∨ stateMint1 ≠ token1) ∧
      (stateMint0 ≠ token1 ∨ stateMint1 ≠ token0) then none
  let vault0Addr := cpmmVaultPda pda poolAddr t0Pk
  let vault1Addr := cpmmVaultPda pda poolAddr t1Pk
  let (amt0, amt1) := vaultBalances rpc vault0Addr vault1Addr
  pure
    { poolPubkey := poolAddr.toBase58
      configPubkey := configUsed.toBase58
      token0Mint := stateMint0
      token1Mint := stateMint1
      token0Vault := vault0Addr.toBase58
      token1Vault := vault1Addr.toBase58
      token0VaultRaw := amt0
      token1VaultRaw := amt1 }

/-- `read_pool_state_at`. -/
def readPoolStateAt (rpc : Rpc) (poolAddr : String) : Option PoolStateData := do
  let poolPk ← Pubkey.fromStr? poolAddr
  let account ← rpc.getAccount poolPk
  let data := account.data
  if data.length < 232 then none
  let token0Mint ← readPubkey data token0MintOffset
  let token1Mint ← readPubkey data token1MintOffset
  let configPubkey ← readPubkey data 8
  let t0Pk ← Pubkey.fromStr? token0Mint
  let t1Pk ← Pubkey.fromStr? token1Mint
  let vault0Addr := cpmmVaultPda pda poolPk t0Pk
  let vault1Addr := cpmmVaultPda pda poolPk t1Pk
  let (amt0, amt1) := vaultBalances rpc vault0Addr vault1Addr
  pure
    { poolPubkey := poolAddr
      configPubkey
      token0Mint
      token1Mint
      token0Vault := vault0Addr.toBase58
      token1Vault := vault1Addr.toBase58
      token0VaultRaw := amt0
      token1VaultRaw := amt1 }

/-! ## Labels -/

/-- The record of a pool in which these are the mints of the two vaults, with some balances. -/
def poolRecord (balances : UInt64 × UInt64)
    (pool config mint0 mint1 vaultMint0 vaultMint1 : Pubkey) : PoolStateData where
  poolPubkey := pool.toBase58
  configPubkey := config.toBase58
  token0Mint := mint0.toBase58
  token1Mint := mint1.toBase58
  token0Vault := (cpmmVaultPda pda pool vaultMint0).toBase58
  token1Vault := (cpmmVaultPda pda pool vaultMint1).toBase58
  token0VaultRaw := balances.1
  token1VaultRaw := balances.2

/-- The balances of the vaults of a pool for two mints. -/
def poolBalances (chain : Chain) (pool mint0 mint1 : Pubkey) : UInt64 × UInt64 :=
  (chain.balance (cpmmVaultPda pda pool mint0), chain.balance (cpmmVaultPda pda pool mint1))

/-- A record has for both mints the address and the balance of the vault that is derived
from the mint. -/
def LabelsVaults (chain : Chain) (record : PoolStateData) : Prop :=
  ∃ pool config mint0 mint1 : Pubkey, record =
    poolRecord pda (poolBalances pda chain pool mint0 mint1) pool config mint0 mint1 mint0 mint1

/-- The account that is found for a pair names the mints in the order of the request, or
both mints have one vault; and the request for the vaults is answered, or nothing is in
them. -/
def AnsweredInOrder (rpc : Rpc) (chain : Chain) (t0 t1 : String) : Prop :=
  ∃ low high pool config account,
    Pubkey.fromStr? (sortMints t0 t1).1 = some low ∧
      Pubkey.fromStr? (sortMints t0 t1).2 = some high ∧
      findCpmmPool pda rpc low high = some (pool, config) ∧
      rpc.getAccount pool = some account ∧
      (readKey account.data token0MintOffset = some low ∨
        cpmmVaultPda pda pool low = cpmmVaultPda pda pool high) ∧
      ((rpc.getMultipleAccounts
          [cpmmVaultPda pda pool low, cpmmVaultPda pda pool high]).isSome = true ∨
        poolBalances pda chain pool low high = (0, 0))

end

section

variable {pda : FindProgramAddress} {rpc : Rpc} {chain : Chain} {t0 t1 : String}
  {record : PoolStateData}

/-- What a successful fetch has found: the vaults are those of the requested mints in text
order, whatever the order of the mints in the account. -/
theorem fetchCpmmPool_eq_some (fetched : fetchCpmmPool pda rpc t0 t1 = some record) :
    ∃ low high pool config account mint0 mint1,
      Pubkey.fromStr? (sortMints t0 t1).1 = some low ∧
        Pubkey.fromStr? (sortMints t0 t1).2 = some high ∧
        findCpmmPool pda rpc low high = some (pool, config) ∧
        rpc.getAccount pool = some account ∧ 232 ≤ account.data.length ∧
        readKey account.data token0MintOffset = some mint0 ∧
        readKey account.data token1MintOffset = some mint1 ∧
        ((mint0 = low ∧ mint1 = high) ∨ (mint0 = high ∧ mint1 = low)) ∧
        record = poolRecord pda
          (vaultBalances rpc (cpmmVaultPda pda pool low) (cpmmVaultPda pda pool high))
          pool config mint0 mint1 low high := by
  simp only [fetchCpmmPool, Option.bind_eq_bind, Option.bind_eq_some_iff] at fetched
  rcases fetched with ⟨low, lowParsed, high, highParsed, ⟨pool, config⟩, found, account, held,
    fetched⟩
  split at fetched
  · exact absurd fetched nofun
  · next long =>
      simp only [Option.bind_eq_some_iff, readPubkey, Option.map_eq_some_iff] at fetched
      rcases fetched with ⟨_, ⟨mint0, mint0At, rfl⟩, _, ⟨mint1, mint1At, rfl⟩, fetched⟩
      have lowText := Pubkey.toBase58_of_fromStr? lowParsed
      have highText := Pubkey.toBase58_of_fromStr? highParsed
      rw [← lowText, ← highText] at fetched
      simp only [ne_eq, Pubkey.toBase58_injective.eq_iff] at fetched
      split at fetched
      · exact absurd fetched nofun
      · next accepted =>
          refine ⟨low, high, pool, config, account, mint0, mint1, lowParsed, highParsed, found,
            held, Nat.not_lt.mp long, mint0At, mint1At, ?_, (Option.some_inj.mp fetched).symm⟩
          by_cases inOrder : mint0 = low ∧ mint1 = high
          · exact .inl inOrder
          · right
            by_contra swapped
            exact accepted ⟨not_and_or.mp inOrder, not_and_or.mp swapped⟩

/-- An account with the requested mints, in either order, is accepted. -/
theorem fetchCpmmPool_accepts {low high pool config mint0 mint1 : Pubkey}
    {account : RpcAccount} (sorted : sortMints t0 t1 = (low.toBase58, high.toBase58))
    (found : findCpmmPool pda rpc low high = some (pool, config))
    (held : rpc.getAccount pool = some account) (long : 232 ≤ account.data.length)
    (mint0At : readKey account.data token0MintOffset = some mint0)
    (mint1At : readKey account.data token1MintOffset = some mint1)
    (accepted : (mint0 = low ∧ mint1 = high) ∨ (mint0 = high ∧ mint1 = low)) :
    fetchCpmmPool pda rpc t0 t1 =
      some (poolRecord pda
        (vaultBalances rpc (cpmmVaultPda pda pool low) (cpmmVaultPda pda pool high))
        pool config mint0 mint1 low high) := by
  have passes : ¬((mint0 ≠ low ∨ mint1 ≠ high) ∧ (mint0 ≠ high ∨ mint1 ≠ low)) := by
    tauto
  simp only [fetchCpmmPool, sorted, Pubkey.fromStr?_toBase58, Option.bind_eq_bind,
    Option.bind_some, found, held, if_neg (Nat.not_lt.mpr long), readPubkey, mint0At,
    mint1At, Option.map_some, ne_eq, Pubkey.toBase58_injective.eq_iff]
  rw [if_neg passes]
  rfl

/-- A fetch by address has the vaults of the account's own mints. -/
theorem readPoolStateAt_eq {pool mint0 mint1 : Pubkey} {account : RpcAccount}
    (held : rpc.getAccount pool = some account) (long : 232 ≤ account.data.length)
    (mint0At : readKey account.data token0MintOffset = some mint0)
    (mint1At : readKey account.data token1MintOffset = some mint1) :
    ∃ config, readPoolStateAt pda rpc pool.toBase58 =
      some (poolRecord pda
        (vaultBalances rpc (cpmmVaultPda pda pool mint0) (cpmmVaultPda pda pool mint1))
        pool config mint0 mint1 mint0 mint1) := by
  have inside : 8 + 32 ≤ account.data.length := by omega
  rcases exists_readKey inside with ⟨config, configAt, _⟩
  refine ⟨config, ?_⟩
  simp only [readPoolStateAt, Pubkey.fromStr?_toBase58, Option.bind_eq_bind, Option.bind_some,
    held, if_neg (Nat.not_lt.mpr long), readPubkey, mint0At, mint1At, configAt,
    Option.map_some]
  rfl

/-- A record of fetched vaults labels them exactly when they are the vaults of its own mints,
with their balances. -/
theorem labelsVaults_poolRecord_iff {balances : UInt64 × UInt64}
    {pool config mint0 mint1 vaultMint0 vaultMint1 : Pubkey} :
    LabelsVaults pda chain
        (poolRecord pda balances pool config mint0 mint1 vaultMint0 vaultMint1) ↔
      (cpmmVaultPda pda pool vaultMint0 = cpmmVaultPda pda pool mint0 ∧
          cpmmVaultPda pda pool vaultMint1 = cpmmVaultPda pda pool mint1) ∧
        balances = poolBalances pda chain pool mint0 mint1 := by
  constructor
  · intro labels
    rcases labels with ⟨pool', config', mint0', mint1', same⟩
    simp only [poolRecord, PoolStateData.mk.injEq, Pubkey.toBase58_injective.eq_iff] at same
    rcases same with ⟨rfl, rfl, rfl, rfl, vault0, vault1, balance0, balance1⟩
    exact ⟨⟨vault0, vault1⟩, Prod.ext balance0 balance1⟩
  · intro right
    rcases right with ⟨⟨vault0, vault1⟩, rfl⟩
    refine ⟨pool, config, mint0, mint1, ?_⟩
    simp only [poolRecord, vault0, vault1]

/-- The vaults of the requested mints are those of the account's own mints exactly when the
first mints are the same or both mints have one vault. -/
theorem vaults_match_iff {pool low high mint0 mint1 : Pubkey}
    (accepted : (mint0 = low ∧ mint1 = high) ∨ (mint0 = high ∧ mint1 = low)) :
    (cpmmVaultPda pda pool low = cpmmVaultPda pda pool mint0 ∧
        cpmmVaultPda pda pool high = cpmmVaultPda pda pool mint1) ↔
      mint0 = low ∨ cpmmVaultPda pda pool low = cpmmVaultPda pda pool high := by
  rcases accepted with ⟨rfl, rfl⟩ | ⟨rfl, rfl⟩
  · exact iff_of_true ⟨rfl, rfl⟩ (.inl rfl)
  · constructor
    · intro vaults
      exact .inr vaults.1
    · intro either
      rcases either with rfl | same
      · exact ⟨rfl, rfl⟩
      · exact ⟨same, same.symm⟩

/-- A fetch by pair labels both vaults correctly, and agrees with the fetch by address,
exactly when the account names the mints in the text order of the request or both mints
have one vault, and the request for the vaults is answered or finds them empty. -/
theorem fetchCpmmPool_labels_iff (answers : AnswersFrom rpc chain)
    (fetched : fetchCpmmPool pda rpc t0 t1 = some record) :
    (LabelsVaults pda chain record ∧
        ∃ configPubkey, readPoolStateAt pda rpc record.poolPubkey =
          some { record with configPubkey }) ↔
      AnsweredInOrder pda rpc chain t0 t1 := by
  rcases fetchCpmmPool_eq_some fetched with ⟨low, high, pool, config, account, mint0, mint1,
    lowParsed, highParsed, found, held, long, mint0At, mint1At, accepted, rfl⟩
  rw [labelsVaults_poolRecord_iff, vaults_match_iff accepted]
  have read := vaultBalances_eq_iff answers (cpmmVaultPda pda pool low)
    (cpmmVaultPda pda pool high)
  constructor
  · intro both
    rcases both with ⟨⟨order, balances⟩, _⟩
    have vaults := (vaults_match_iff accepted).mpr order
    refine ⟨low, high, pool, config, account, lowParsed, highParsed, found, held, ?_, ?_⟩
    · exact order.imp_left fun first => mint0At.trans (congrArg some first)
    · rw [poolBalances, ← vaults.1, ← vaults.2, read] at balances
      exact balances.imp_right fun empty => Prod.ext empty.1 empty.2
  · intro inOrder
    rcases inOrder with ⟨low', high', pool', config', account', lowParsed', highParsed', found',
      held', order, known⟩
    rw [lowParsed, Option.some_inj] at lowParsed'
    rw [highParsed, Option.some_inj] at highParsed'
    subst lowParsed' highParsed'
    rw [found, Option.some_inj, Prod.mk.injEq] at found'
    rcases found' with ⟨rfl, rfl⟩
    rw [held, Option.some_inj] at held'
    subst held'
    have first : mint0 = low ∨ cpmmVaultPda pda pool low = cpmmVaultPda pda pool high :=
      order.imp_left fun lowAt => Option.some_inj.mp (mint0At.symm.trans lowAt)
    have vaults := (vaults_match_iff accepted).mpr first
    refine ⟨⟨first, ?_⟩, ?_⟩
    · rw [poolBalances, ← vaults.1, ← vaults.2, read]
      exact known.imp_right Prod.mk.inj
    · rcases @readPoolStateAt_eq pda rpc _ _ _ _ held long mint0At mint1At with ⟨own, result⟩
      refine ⟨own.toBase58, ?_⟩
      rw [← vaults.1, ← vaults.2] at result
      rw [poolRecord, result]
      simp only [poolRecord, vaults.1, vaults.2]

end

/-! ## A swapped pool -/

section

/-- The dollar mint, which precedes wrapped SOL as text. -/
def sampleUsdc : Pubkey := .ofLiteral Client.usdcMint
def sampleSol : Pubkey := .ofLiteral Client.nativeSolMint

/-- The derived addresses of the pool of the two mints and of its vaults. -/
def samplePairPool : Pubkey := .ofLiteral "9dTkMoBDn31NKzLcXerzC4iVeNRixtvPV5BzMrc7VTTT"
def sampleUsdcVault : Pubkey := .ofLiteral "83baT9ef6FRBAn6w9ZAbtnewXpVgLQgRvDp5wokDhnvX"
def sampleSolVault : Pubkey := .ofLiteral "GQdLYfK59mYxGfDMCYxsWM7sgLkQZyUi471dcBqUbq6D"

/-- The deployed derivation, as far as the sample needs it. -/
def sampleCpmmPda : FindProgramAddress := fun seeds _ =>
  if seeds = [ascii "pool_vault", samplePairPool.bytes, sampleUsdc.bytes] then
    sampleUsdcVault
  else if seeds = [ascii "pool_vault", samplePairPool.bytes, sampleSol.bytes] then
    sampleSolVault
  else samplePairPool

/-- Two orders of the mints in the account of the pool. -/
def samplePoolChain (mint0 mint1 : Pubkey) : Chain := fun key =>
  if key = samplePairPool then
    some
      { owner := .ofLiteral Client.cpmmProgram
        data := List.replicate 168 0 ++ (mint0.bytes ++ mint1.bytes) }
  else none

theorem sortMints_sample :
    sortMints Client.nativeSolMint Client.usdcMint =
      (sampleUsdc.toBase58, sampleSol.toBase58) := by
  rw [sampleUsdc, sampleSol]
  rw [toBase58_ofLiteral (mints_parse Client.usdcMint (by simp)),
    toBase58_ofLiteral (mints_parse Client.nativeSolMint (by simp))]
  decide

theorem samplePool_found (mint0 mint1 : Pubkey) :
    findCpmmPool sampleCpmmPda (.ofChain (samplePoolChain mint0 mint1)) sampleUsdc sampleSol =
      some (samplePairPool, .ofLiteral Client.cpmmAmmConfig) := by
  have derived : cpmmPoolPda sampleCpmmPda (.ofLiteral Client.cpmmAmmConfig) sampleUsdc
      sampleSol = samplePairPool := by decide +kernel
  have present : (samplePoolChain mint0 mint1 samplePairPool).isSome := by
    rw [samplePoolChain, if_pos rfl]
    rfl
  simp only [findCpmmPool, derived]
  exact if_pos present

/-- A pool whose account has the mints in text order is labelled correctly. -/
theorem fetchCpmmPool_labels_iff_sample :
    ∃ record, fetchCpmmPool sampleCpmmPda (.ofChain (samplePoolChain sampleUsdc sampleSol))
        Client.nativeSolMint Client.usdcMint = some record ∧
      LabelsVaults sampleCpmmPda (samplePoolChain sampleUsdc sampleSol) record := by
  have mint0At : readKey (List.replicate 168 0 ++ (sampleUsdc.bytes ++ sampleSol.bytes))
      token0MintOffset = some sampleUsdc := by decide +kernel
  have fetched := fetchCpmmPool_accepts sortMints_sample
    (samplePool_found sampleUsdc sampleSol) rfl (by decide +kernel) mint0At
    (by decide +kernel) (.inl ⟨rfl, rfl⟩)
  refine ⟨_, fetched, ((fetchCpmmPool_labels_iff (answersFrom_ofChain _) fetched).mpr ?_).1⟩
  refine ⟨sampleUsdc, sampleSol, samplePairPool, _, _, ?_, ?_,
    samplePool_found sampleUsdc sampleSol, rfl, .inl mint0At, .inl rfl⟩
  · rw [sortMints_sample]
    exact Pubkey.fromStr?_toBase58 sampleUsdc
  · rw [sortMints_sample]
    exact Pubkey.fromStr?_toBase58 sampleSol

/-- A pool whose account has the mints in the other order is accepted, and labelled with
each other's vaults. -/
theorem fetchCpmmPool_mislabels :
    ¬∀ (pda : FindProgramAddress) (chain : Chain) (t0 t1 : String) (record : PoolStateData),
      fetchCpmmPool pda (.ofChain chain) t0 t1 = some record →
        LabelsVaults pda chain record ∧
          ∃ configPubkey, readPoolStateAt pda (.ofChain chain) record.poolPubkey =
            some { record with configPubkey } := by
  intro labels
  have mint0At : readKey (List.replicate 168 0 ++ (sampleSol.bytes ++ sampleUsdc.bytes))
      token0MintOffset = some sampleSol := by decide +kernel
  have fetched := fetchCpmmPool_accepts sortMints_sample
    (samplePool_found sampleSol sampleUsdc) rfl (by decide +kernel) mint0At
    (by decide +kernel) (.inr ⟨rfl, rfl⟩)
  have vaults := (labelsVaults_poolRecord_iff.mp (labels _ _ _ _ _ fetched).1).1
  exact absurd vaults.1 (by decide +kernel)

end

end AtomicArbitrage.Bot

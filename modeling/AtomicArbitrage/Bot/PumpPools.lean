import AtomicArbitrage.Bot.DirectBuilders
import AtomicArbitrage.Bot.DlmmDiscovery

/-!
# PumpSwap pools

The price of a coin and the address of its pool come from one service, and are kept in two
caches: the price for seconds, the address for good.  A builder that finds no address derives one
from the bonding curve of the coin.
-/

namespace AtomicArbitrage.Bot

open AtomicArbitrage.Program (ascii)

def pumpfunReserveTtlSecs : ℕ := 10

/-! ## What is read -/

/-- A whole `BondingCurveState`. -/
structure PumpCoin extends BondingCurveState where
  mint : String
  realSolReserves : UInt64
  realTokenReserves : UInt64
  complete : Bool
  creator : String

structure CoinV2Meta where
  bondingCurve : String
  pumpSwapPool : Option String
  complete : Bool

/-- `fetch_coin_v2`, of the body of a successful response. -/
def fetchCoinV2 (resp : Option Json) : Option CoinV2Meta := do
  let json ← resp
  let bondingCurve ← (← json.get "bonding_curve").asStr
  pure
    { bondingCurve
      pumpSwapPool := (json.get "pump_swap_pool").bind Json.asStr
      complete := ((json.get "complete").bind Json.asBool).getD false }

/-- The end of `read_pumpswap_pool`, of the answers for both vaults.  The mints are those of the
vaults, not those in the account of the pool. -/
def coinOfVaults (baseRes quoteRes : Option RpcAccount) (poolAddr memeMint : String) :
    Option PumpCoin :=
  let baseAmount := (baseRes.bind fun account => parseTokenAmount account.data).getD 0
  let quoteAmount := (quoteRes.bind fun account => parseTokenAmount account.data).getD 0
  let baseVaultMint := (baseRes.bind fun account => readPubkey account.data 0).getD ""
  let quoteVaultMint := (quoteRes.bind fun account => readPubkey account.data 0).getD ""
  if baseAmount = 0 ∨ quoteAmount = 0 then none
  else if baseVaultMint ≠ Client.nativeSolMint ∧ quoteVaultMint ≠ Client.nativeSolMint then none
  else
    let (solReserves, tokenReserves) :=
      if baseVaultMint = Client.nativeSolMint then (baseAmount, quoteAmount)
      else (quoteAmount, baseAmount)
    some
      { mint := memeMint
        bondingCurveAddress := poolAddr
        virtualTokenReserves := tokenReserves
        virtualSolReserves := solReserves
        realTokenReserves := tokenReserves
        realSolReserves := solReserves
        complete := true
        creator := ""
        venueKind := .pumpSwapPool }

/-- `read_pumpswap_pool`.  The pool is read from the cache of the stream or from the node, as
the account of a DLMM pair is. -/
def readPumpswapPool (cache : GeyserPoolCache) (rpc : Rpc) (poolPk : Pubkey)
    (poolAddr memeMint : String) : Option PumpCoin := do
  let data ← pairData cache rpc poolAddr poolPk
  if data.length < 203 then none
  else
    let baseVault ← readKey data 139
    let quoteVault ← readKey data 171
    coinOfVaults (rpc.getAccount baseVault) (rpc.getAccount quoteVault) poolAddr memeMint

/-- `read_bonding_curve_at`, which the fallback repeats.  The creator is read where the data has
one. -/
def readBondingCurveAt (rpc : Rpc) (bcPk : Pubkey) (bcAddr mint : String) : Option PumpCoin := do
  let account ← rpc.getAccount bcPk
  let data := account.data
  if data.length < 49 then none
  else
    pure
      { mint
        bondingCurveAddress := bcAddr
        virtualTokenReserves := Word64.readAt data 8
        virtualSolReserves := Word64.readAt data 16
        realTokenReserves := Word64.readAt data 24
        realSolReserves := Word64.readAt data 32
        complete := data.getD 48 0 ≠ 0
        creator := (readPubkey data 49).getD ""
        venueKind := .bondingCurve }

/-- Neither reserve is empty. -/
def BondingCurveState.Positive (coin : BondingCurveState) : Prop :=
  coin.virtualSolReserves > 0 ∧ coin.virtualTokenReserves > 0

instance (coin : BondingCurveState) : Decidable coin.Positive :=
  inferInstanceAs (Decidable (_ ∧ _))

section

variable (pda : FindProgramAddress)

/-- The bonding curve of a mint. -/
def bondingCurvePda (mint : Pubkey) : Pubkey :=
  pda [ascii "bonding-curve", mint.bytes] (.ofLiteral Client.pumpfunBondingCurveProgram)

/-- The pool of a mint and SOL, made by this creator. -/
def pumpSwapPoolPda (creator mint : Pubkey) : Pubkey :=
  pda
    [ascii "pool", Word64.encode 2 0, creator.bytes, mint.bytes,
      (Pubkey.ofLiteral Client.nativeSolMint).bytes]
    (.ofLiteral Client.pumpfunAmmProgram)

/-- The pool that `resolve_pumpswap_pool_address` derives. -/
def derivedPool (rpc : Rpc) (mint : String) : Option Pubkey := do
  let mintPk ← Pubkey.fromStr? mint
  let account ← rpc.getAccount (bondingCurvePda pda mintPk)
  if account.data.length < 81 then none
  else
    let creator ← readKey account.data 49
    pure (pumpSwapPoolPda pda creator mintPk)

end

/-! ## The state -/

/-- What a call waits for. -/
inductive PumpStage where
  /-- The answer of the service. -/
  | coin
  /-- The pool that the service has named. -/
  | pool (coin : CoinV2Meta) (poolAddr : String) (poolPk : Pubkey)
  /-- The bonding curve that the service has named. -/
  | curve (coin : CoinV2Meta) (bcPk : Pubkey)
  /-- The bonding curve of the mint. -/
  | fallback (mintPk : Pubkey)
  /-- The bonding curve of the mint, for its creator. -/
  | creator

/-- A call of `fetch_bonding_curve` or of `resolve_pumpswap_pool_address` that waits. -/
structure PumpTask where
  mint : String
  stage : PumpStage

/-- What has happened. -/
inductive PumpEvent where
  /-- The service has named a pool. -/
  | named (mint : String) (pool : Pubkey)
  /-- `fetch_bonding_curve` has returned. -/
  | priced (mint : String) (time : Instant) (cached : Bool) (coin : Option PumpCoin)
  /-- `resolve_pumpswap_pool_address` has returned. -/
  | resolved (mint : String) (pool : Option Pubkey)

/-- What a call is told while it waits, and whether the cache of addresses is free then. -/
structure PumpReplies where
  resp : Option Json
  cache : GeyserPoolCache
  rpc : Rpc
  free : Bool

/-- The two caches, the calls that wait, and what has happened, the last first. -/
structure PumpPools where
  now : Instant
  addresses : AssocMap String Pubkey
  coins : PoolCache (Option PumpCoin)
  tasks : List PumpTask
  log : List PumpEvent

namespace PumpPools

def start (uptime : ℕ) : PumpPools where
  now := uptime
  addresses := .empty
  coins := .empty
  tasks := []
  log := []

section

variable (s : PumpPools) (mint : String)

def record (event : PumpEvent) : PumpPools := { s with log := event :: s.log }

def wait (stage : PumpStage) : PumpPools := { s with tasks := s.tasks ++ [{ mint, stage }] }

/-- An address is kept for good, if the cache is free. -/
def keepAddress (free : Bool) (pool : Pubkey) : PumpPools :=
  if free then { s with addresses := AssocMap.insert s.addresses mint pool } else s

/-- The call returns what it has read, which is cached. -/
def cacheMiss (coin : Option PumpCoin) (entry : CacheEntry (Option PumpCoin)) : PumpPools :=
  ({ s with coins := AssocMap.insert s.coins mint entry }).record (.priced mint s.now false coin)

/-! ### Prices -/

/-- The start of `fetch_bonding_curve`. -/
def askCoin : PumpPools :=
  match AssocMap.get s.coins mint with
  | some entry =>
      if entry.ageSecs s.now < pumpfunReserveTtlSecs then
        s.record (.priced mint s.now true entry.data)
      else s.wait mint .coin
  | none => s.wait mint .coin

/-- The derived bonding curve is tried. -/
def toFallback : PumpPools :=
  match Pubkey.fromStr? mint with
  | none => s.record (.priced mint s.now false none)
  | some mintPk => s.wait mint (.fallback mintPk)

/-- Behind the bonding curve of the service: a coin that may be migrating is asked for again. -/
def afterCurve (coin : CoinV2Meta) : PumpPools :=
  if coin.complete ∧ coin.pumpSwapPool.isSome then s.record (.priced mint s.now false none)
  else s.toFallback mint

/-- The bonding curve of the service is tried. -/
def toCurve (coin : CoinV2Meta) : PumpPools :=
  match Pubkey.fromStr? coin.bondingCurve with
  | none => s.afterCurve mint coin
  | some bcPk => s.wait mint (.curve coin bcPk)

/-- The pool that the service names, if that is an address. -/
def namedBy (coin : CoinV2Meta) : Option (String × Pubkey) := do
  let poolAddr ← coin.pumpSwapPool
  let poolPk ← Pubkey.fromStr? poolAddr
  pure (poolAddr, poolPk)

/-- The service has answered. -/
def coinAnswered (free : Bool) (resp : Option Json) : PumpPools :=
  match fetchCoinV2 resp with
  | none => s.toFallback mint
  | some coin =>
      match namedBy coin with
      | none => s.toCurve mint coin
      | some (poolAddr, poolPk) =>
          let s := (s.keepAddress mint free poolPk).record (.named mint poolPk)
          if coin.complete then s.wait mint (.pool coin poolAddr poolPk) else s.toCurve mint coin

/-- The pool has been read. -/
def poolAnswered (replies : PumpReplies) (coin : CoinV2Meta) (poolAddr : String)
    (poolPk : Pubkey) : PumpPools :=
  match readPumpswapPool replies.cache replies.rpc poolPk poolAddr mint with
  | some state => s.cacheMiss mint (some state) (.new (some state) s.now)
  | none => s.toCurve mint coin

/-- The bonding curve of the service has been read. -/
def curveAnswered (rpc : Rpc) (coin : CoinV2Meta) (bcPk : Pubkey) : PumpPools :=
  match readBondingCurveAt rpc bcPk coin.bondingCurve mint with
  | some state =>
      if state.Positive then s.cacheMiss mint (some state) (.new (some state) s.now)
      else s.afterCurve mint coin
  | none => s.afterCurve mint coin

/-! ### Addresses -/

/-- `get_pumpswap_pool_address`, and the state that it leaves.  A lock that is taken makes it
give up. -/
def getPumpswapPoolAddress (addressesFree coinsFree backfillFree : Bool) :
    Option Pubkey × PumpPools :=
  if ¬addressesFree then (none, s)
  else
    match AssocMap.get s.addresses mint with
    | some addr => (some addr, s)
    | none =>
        if ¬coinsFree then (none, s)
        else
          let pool : Option Pubkey := do
            let entry ← AssocMap.get s.coins mint
            let state ← entry.data
            if state.venueKind = .pumpSwapPool then Pubkey.fromStr? state.bondingCurveAddress
            else none
          match pool with
          | some pk => (some pk, s.keepAddress mint backfillFree pk)
          | none => (none, s)

/-- The start of `resolve_pumpswap_pool_address`. -/
def askAddress (addressesFree coinsFree backfillFree : Bool) : PumpPools :=
  match s.getPumpswapPoolAddress mint addressesFree coinsFree backfillFree with
  | (some addr, s) => s.record (.resolved mint (some addr))
  | (none, s) =>
      if (Pubkey.fromStr? mint).isSome then s.wait mint .creator
      else s.record (.resolved mint none)

variable (pda : FindProgramAddress)

/-- The derived bonding curve has been read. -/
def fallbackAnswered (rpc : Rpc) (mintPk : Pubkey) : PumpPools :=
  let bcPda := bondingCurvePda pda mintPk
  match (readBondingCurveAt rpc bcPda bcPda.toBase58 mint).filter
    fun state => state.Positive with
  | some state => s.cacheMiss mint (some state) (.new (some state) s.now)
  | none => s.cacheMiss mint none (.newNegative none s.now)

/-- The creator has been read. -/
def creatorAnswered (free : Bool) (rpc : Rpc) : PumpPools :=
  match derivedPool pda rpc mint with
  | none => s.record (.resolved mint none)
  | some pool => (s.keepAddress mint free pool).record (.resolved mint (some pool))

/-- A call goes on with what it is told. -/
def resume (replies : PumpReplies) (stage : PumpStage) : PumpPools :=
  match stage with
  | .coin => s.coinAnswered mint replies.free replies.resp
  | .pool coin poolAddr poolPk => s.poolAnswered mint replies coin poolAddr poolPk
  | .curve coin bcPk => s.curveAnswered mint replies.rpc coin bcPk
  | .fallback mintPk => s.fallbackAnswered mint pda replies.rpc mintPk
  | .creator => s.creatorAnswered mint pda replies.free replies.rpc

end

/-- What happens, in any order. -/
inductive Step where
  | tick (nanos : ℕ)
  | coinAsked (mint : String)
  | addressAsked (mint : String) (addressesFree coinsFree backfillFree : Bool)
  | told (position : ℕ) (replies : PumpReplies)

def step (pda : FindProgramAddress) (s : PumpPools) : Step → PumpPools
  | .tick nanos => { s with now := s.now + nanos }
  | .coinAsked mint => s.askCoin mint
  | .addressAsked mint addressesFree coinsFree backfillFree =>
      s.askAddress mint addressesFree coinsFree backfillFree
  | .told position replies =>
      match s.tasks[position]? with
      | none => s
      | some task =>
          { s with tasks := s.tasks.eraseIdx position }.resume task.mint pda replies task.stage

end PumpPools

/-! ## What has been read -/

/-- A coin of this mint with reserves; if it is a pool, one that the service has named for the
mint. -/
structure PumpCoin.Genuine (log : List PumpEvent) (mint : String) (coin : PumpCoin) : Prop where
  ofMint : coin.mint = mint
  positive : coin.Positive
  pool : coin.venueKind = .pumpSwapPool →
    ∃ pool, Pubkey.fromStr? coin.bondingCurveAddress = some pool ∧ .named mint pool ∈ log

section

variable {rpc : Rpc} {mint : String} {coin : PumpCoin}

/-- A pool has two balances. -/
theorem coinOfVaults_eq_some {baseRes quoteRes : Option RpcAccount} {poolAddr : String}
    (found : coinOfVaults baseRes quoteRes poolAddr mint = some coin) :
    coin.mint = mint ∧ coin.bondingCurveAddress = poolAddr ∧ coin.Positive := by
  simp only [coinOfVaults] at found
  split at found
  · cases found
  · next some =>
      rcases not_or.mp some with ⟨base, quote⟩
      split at found
      · cases found
      · rw [← Option.some_inj.mp found]
        refine ⟨rfl, rfl, ?_⟩
        simp only [BondingCurveState.Positive]
        split
        · exact ⟨UInt64.pos_iff_ne_zero.mpr base, UInt64.pos_iff_ne_zero.mpr quote⟩
        · exact ⟨UInt64.pos_iff_ne_zero.mpr quote, UInt64.pos_iff_ne_zero.mpr base⟩

theorem readPumpswapPool_eq_some {cache : GeyserPoolCache} {poolPk : Pubkey} {poolAddr : String}
    (read : readPumpswapPool cache rpc poolPk poolAddr mint = some coin) :
    coin.mint = mint ∧ coin.bondingCurveAddress = poolAddr ∧ coin.Positive := by
  rcases Option.bind_eq_some_iff.mp read with ⟨data, -, read⟩
  split at read
  · cases read
  · rcases Option.bind_eq_some_iff.mp read with ⟨baseVault, -, read⟩
    rcases Option.bind_eq_some_iff.mp read with ⟨quoteVault, -, read⟩
    exact coinOfVaults_eq_some read

/-- A bonding curve is no pool. -/
theorem readBondingCurveAt_eq_some {bcPk : Pubkey} {bcAddr : String}
    (read : readBondingCurveAt rpc bcPk bcAddr mint = some coin) :
    coin.mint = mint ∧ coin.venueKind = .bondingCurve := by
  simp only [readBondingCurveAt, Option.bind_eq_bind, Option.bind_eq_some_iff] at read
  rcases read with ⟨account, -, read⟩
  split at read
  · cases read
  · rw [← Option.some_inj.mp read]
    exact ⟨rfl, rfl⟩

end

end AtomicArbitrage.Bot

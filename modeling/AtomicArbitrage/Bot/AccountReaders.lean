import AtomicArbitrage.Bot.BinWindow
import AtomicArbitrage.Client.PumpSwap
import AtomicArbitrage.Library.Slices

/-!
# Readers of account data

An account comes from a node as a byte string of any length, and each reader slices it by
hand.  Here they are read with the bounds checks of the language.  Most of them look at the
length first; the reader of a vault's balance does not, and the scanner for the full state of
an AMM pool looks behind the mints but not in front of them.
-/

namespace AtomicArbitrage.Bot

open Client (PumpSwapPoolMeta)
open Outcome Slices

/-! ## Fields -/

/-- `data[off..off + 32].try_into()`, which is an address wherever the slice is one. -/
def keyAt (data : List UInt8) (off : ℕ) : Except Panic Pubkey :=
  if inside : off + 32 ≤ data.length then
    .ok ⟨(data.drop off).take 32, by rw [List.length_take, List.length_drop]; omega⟩
  else .error .range

/-- `u64::from_le_bytes(data[off..off + 8].try_into())`. -/
def wordAt (data : List UInt8) (off : ℕ) : Except Panic UInt64 := do
  let _ ← slice data off (off + 8)
  pure (Word64.readAt data off)

/-- `data[off] != 0`. -/
def flagAt (data : List UInt8) (off : ℕ) : Except Panic Bool := do
  pure ((← index data off) ≠ 0)

/-- A field that only longer accounts have. -/
def readFrom {α : Type} (data : List UInt8) (length : ℕ) (read : Except Panic α) (absent : α) :
    Except Panic α :=
  if data.length ≥ length then read else pure absent

/-! ## PumpSwap -/

/-- `parse_pumpswap_pool_meta`. -/
def parsePumpswapPoolMeta (data : List UInt8) : Except Panic (Option PumpSwapPoolMeta) := do
  if data.length < 203 then pure none
  else
    let poolBaseTokenAccount ← keyAt data 139
    let poolQuoteTokenAccount ← keyAt data 171
    let coinCreator ← readFrom data 243 (keyAt data 211) .zero
    let isMayhemMode ← readFrom data 244 (flagAt data 243) false
    let isCashbackCoin ← readFrom data 245 (flagAt data 244) false
    pure (some
      { coinCreator, isMayhemMode, isCashbackCoin, poolBaseTokenAccount, poolQuoteTokenAccount })

/-- `read_pubkey_at`. -/
def readPubkeyAt (data : List UInt8) (off : ℕ) : Except Panic Pubkey := keyAt data off

/-- `parse_spl_token_amount`. -/
def parseSplTokenAmount (data : List UInt8) : Except Panic UInt64 := wordAt data 64

/-- The error of a fetch: its text, without that of the request it is about. -/
abbrev Fetched := Except String

/-- The balances of the vaults of a pool, SOL first. -/
def vaultReserves (pool : Pubkey) (baseVaultRes quoteVaultRes : Option RpcAccount) :
    Except Panic (Fetched (UInt64 × UInt64)) :=
  match baseVaultRes, quoteVaultRes with
  | none, _ => pure (.error "base vault read")
  | some _, none => pure (.error "quote vault read")
  | some base, some quote => do
      let baseAmount ← parseSplTokenAmount base.data
      let quoteAmount ← parseSplTokenAmount quote.data
      let baseMint ← readPubkeyAt base.data 0
      let quoteMint ← readPubkeyAt quote.data 0
      if baseMint.toBase58 = Client.nativeSolMint then pure (.ok (baseAmount, quoteAmount))
      else if quoteMint.toBase58 = Client.nativeSolMint then pure (.ok (quoteAmount, baseAmount))
      else
        pure (.error ("PumpSwap pool " ++ pool.toBase58 ++ " not SOL-denominated (base=" ++
          baseMint.toBase58 ++ " quote=" ++ quoteMint.toBase58 ++ ")"))

/-- `POOL_META_CACHE`. -/
abbrev PoolMetaCache := AssocMap Pubkey PumpSwapPoolMeta

/-- The metadata of a pool, from the cache or from the node, with the cache behind it. -/
def poolMeta (cache : PoolMetaCache) (rpc : Rpc) (pool : Pubkey) :
    Except Panic (Fetched PumpSwapPoolMeta × PoolMetaCache) :=
  match cache.get pool, rpc.getAccount pool with
  | some m, _ => pure (.ok m, cache)
  | none, none => pure (.error "fetch pumpswap pool account", cache)
  | none, some account => do
      match ← parsePumpswapPoolMeta account.data with
      | none => pure (.error "parse pumpswap pool metadata", cache)
      | some m => pure (.ok m, cache.insert pool m)

/-- `fetch_pumpswap_meta_and_reserves`. -/
def fetchPumpswapMetaAndReserves (cache : PoolMetaCache) (rpc : Rpc) (pool : Pubkey) :
    Except Panic (Fetched (PumpSwapPoolMeta × UInt64 × UInt64) × PoolMetaCache) := do
  let (found, cache) ← poolMeta cache rpc pool
  match found with
  | .error reason => pure (.error reason, cache)
  | .ok m =>
      let reserves ← vaultReserves pool (rpc.getAccount m.poolBaseTokenAccount)
        (rpc.getAccount m.poolQuoteTokenAccount)
      pure (reserves.map fun (solRes, tokRes) => (m, solRes, tokRes), cache)

/-! ## DLMM

The two readers again, with their slices. -/

namespace Sliced

/-- The loop of `parse_bin_array_data`. -/
def readBins (bdata : List UInt8) (arrIdx : ℤ) (stride : ℕ) :
    (count i : ℕ) → List DlmmBin → Except Panic (List DlmmBin)
  | 0, _, out => pure out
  | count + 1, i, out =>
      let offset := binArrayHeaderSize + i * stride
      if offset + 16 > bdata.length then pure out
      else do
        let amountX ← wordAt bdata offset
        let amountY ← wordAt bdata (offset + 8)
        readBins bdata arrIdx stride count (i + 1)
          (out ++ [{ binId := binIdAt arrIdx i, amountX, amountY }])

/-- `parse_bin_array_data`.  The first bin is sliced once more for the log. -/
def parseBinArrayData (bdata : List UInt8) (out : List DlmmBin) :
    Except Panic (List DlmmBin) := do
  if bdata.length < binArrayHeaderSize then pure out
  else
    let arrIdx ← wordAt bdata 8
    match binStride? bdata with
    | none => pure out
    | some stride =>
        if bdata.length > binArrayHeaderSize + 32 then
          let _ ← slice bdata binArrayHeaderSize (binArrayHeaderSize + 32)
        readBins bdata arrIdx.toInt64.toInt stride binsPerArray 0 out

/-- `parse_optional_pubkey`. -/
def parseOptionalPubkey (data : List UInt8) (offset : ℕ) : Except Panic (Option Pubkey) := do
  if data.length < offset + 1 then pure none
  else if (← index data offset) = 0 then pure none
  else if data.length < offset + 33 then pure none
  else pure (some (← keyAt data (offset + 1)))

end Sliced

/-! ## AMM v4 -/

/-- `AmmV4PoolInfo`. -/
structure AmmV4PoolInfo where
  poolAddress : String
  coinMint : String
  pcMint : String
  coinVault : String
  pcVault : String
  openOrders : String
  targetOrders : String
  market : String
  marketProgram : String
deriving DecidableEq

/-- `read_pk`. -/
def readPk (data : List UInt8) (off : ℕ) : Except Panic String :=
  Pubkey.toBase58 <$> keyAt data off

/-- The state around the coin mint. -/
def ammv4InfoAt (data : List UInt8) (pos : ℕ) (poolAddress : String) :
    Except Panic AmmV4PoolInfo := do
  let coinMint ← readPk data pos
  let pcMint ← readPk data (pos + 32)
  let coinVault ← readPk data (← sub pos 64)
  let pcVault ← readPk data (← sub pos 32)
  let openOrders ← readPk data (pos + 96)
  let targetOrders ← readPk data (pos + 128)
  let market ← readPk data (pos + 160)
  let marketProgram ← readPk data (pos + 192)
  pure
    { poolAddress, coinMint, pcMint, coinVault, pcVault, openOrders, targetOrders, market
      marketProgram }

/-- `parse_ammv4_with_mints`. -/
def parseAmmv4WithMints (data : List UInt8) (coinMint pcMint : Pubkey) (poolAddress : String) :
    Except Panic (Option AmmV4PoolInfo) :=
  match position? data coinMint.bytes with
  | none => pure none
  | some pos => do
      if pos + 64 > data.length then pure none
      else if (← slice data (pos + 32) (pos + 64)) ≠ pcMint.bytes then pure none
      else some <$> ammv4InfoAt data pos poolAddress

/-- The vaults in front of a mint, if it is the coin mint of the pair. -/
def vaultsOfCoin (data : List UInt8) (posA : ℕ) (mintB : Pubkey) :
    Except Panic (Option (String × String)) := do
  if posA ≥ 64 then
    let vcoin ← keyAt data (← sub posA 64)
    let vpc ← keyAt data (← sub posA 32)
    if posA + 32 < (← sub data.length 32) then
      if (← slice data (posA + 32) (posA + 64)) = mintB.bytes then
        pure (some (vcoin.toBase58, vpc.toBase58))
      else pure none
    else pure none
  else pure none

/-- The vaults in front of the other mint, if it is in front of this one. -/
def vaultsOfPc (data : List UInt8) (posA : ℕ) (mintB : Pubkey) :
    Except Panic (Option (String × String)) := do
  if posA ≥ 32 then
    if posA + 32 ≤ (← sub data.length 32) then
      let prev ← slice data (← sub posA 32) posA
      if prev = mintB.bytes ∧ posA ≥ 96 then
        let vcoin ← keyAt data (← sub posA 96)
        let vpc ← keyAt data (← sub posA 64)
        pure (some (vcoin.toBase58, vpc.toBase58))
      else pure none
    else pure none
  else pure none

/-- `find_vaults_in_pool_data`. -/
def findVaultsInPoolData (data : List UInt8) (mintA mintB : Pubkey) :
    Except Panic (Option (String × String)) :=
  match position? data mintA.bytes with
  | none => pure none
  | some posA => do
      match ← vaultsOfCoin data posA mintB with
      | some vaults => pure (some vaults)
      | none => vaultsOfPc data posA mintB

/-! ## What the readers return -/

section

variable {data : List UInt8} {off : ℕ}

theorem exists_keyAt (data : List UInt8) (off : ℕ) (inside : off + 32 ≤ data.length) :
    ∃ key, keyAt data off = .ok key ∧ readKey data off = some key := by
  have size : ((data.drop off).take 32).length = 32 := by
    rw [List.length_take, List.length_drop]
    omega
  refine ⟨⟨_, size⟩, dif_pos inside, ?_⟩
  rw [readKey, slice?_of_le inside]
  exact dif_pos size

theorem le_of_keyAt {key : Pubkey} (read : keyAt data off = .ok key) :
    off + 32 ≤ data.length := by
  rw [keyAt] at read
  split at read
  · assumption
  · cases read

theorem wordAt_of_le (inside : off + 8 ≤ data.length) :
    wordAt data off = .ok (Word64.readAt data off) := by
  rw [wordAt, slice_of_le (Nat.le_add_right off 8) inside]
  rfl

theorem le_of_wordAt {word : UInt64} (read : wordAt data off = .ok word) :
    off + 8 ≤ data.length := by
  rcases bind_eq_ok.mp read with ⟨bytes, sliced, _⟩
  rw [slice] at sliced
  split at sliced
  · next inside => exact inside.2
  · cases sliced

theorem exists_flagAt (data : List UInt8) (off : ℕ) (inside : off < data.length) :
    ∃ flag, flagAt data off = .ok flag := by
  rw [flagAt, index_of_lt inside]
  exact ⟨_, rfl⟩

theorem exists_readFrom {α : Type} {length : ℕ} {read : Except Panic α} (absent : α)
    (reads : length ≤ data.length → ∃ value, read = .ok value) :
    ∃ value, readFrom data length read absent = .ok value := by
  rw [readFrom]
  split
  · next long => exact reads long
  · exact ⟨absent, rfl⟩

/-- The metadata reader returns nothing for the accounts that are too short, and only then. -/
theorem exists_parsePumpswapPoolMeta (data : List UInt8) :
    ∃ result, parsePumpswapPoolMeta data = .ok result ∧
      (result = none ↔ data.length < 203) := by
  by_cases short : data.length < 203
  · refine ⟨none, ?_, iff_of_true rfl short⟩
    rw [parsePumpswapPoolMeta, if_pos short]
    rfl
  · rcases exists_keyAt data 139 (by omega) with ⟨base, baseAt, _⟩
    rcases exists_keyAt data 171 (by omega) with ⟨quote, quoteAt, _⟩
    rcases exists_readFrom Pubkey.zero fun (long : 243 ≤ data.length) =>
      (exists_keyAt data 211 long).imp fun _ => And.left with ⟨key, keyRead⟩
    rcases exists_readFrom false fun (long : 244 ≤ data.length) =>
      exists_flagAt data 243 long with ⟨mayhem, mayhemRead⟩
    rcases exists_readFrom false fun (long : 245 ≤ data.length) =>
      exists_flagAt data 244 long with ⟨cashback, cashbackRead⟩
    refine ⟨some ⟨key, mayhem, cashback, base, quote⟩, ?_,
      iff_of_false (Option.some_ne_none _) short⟩
    rw [parsePumpswapPoolMeta, if_neg short, baseAt, ok_bind, quoteAt, ok_bind, keyRead, ok_bind,
      mayhemRead, ok_bind, cashbackRead, ok_bind]
    rfl

theorem readBins_eq {bdata : List UInt8} {arrIdx : ℤ} {stride : ℕ} (count i : ℕ)
    (out : List DlmmBin) :
    Sliced.readBins bdata arrIdx stride count i out =
      .ok (out ++ parseBins bdata arrIdx stride count i) := by
  induction count generalizing i out with
  | zero =>
      rw [parseBins, List.append_nil]
      rfl
  | succ count ih =>
      rw [Sliced.readBins, parseBins]
      by_cases outside : binArrayHeaderSize + i * stride + 16 > bdata.length
      · rw [if_pos outside, if_pos outside, List.append_nil]
        rfl
      · rw [if_neg outside, if_neg outside, wordAt_of_le (by omega), ok_bind,
          wordAt_of_le (by omega), ok_bind, ih, List.append_assoc, List.singleton_append]

/-- No slice of a bin array is out of range. -/
theorem parseBinArrayData_eq (bdata : List UInt8) (out : List DlmmBin) :
    Sliced.parseBinArrayData bdata out = .ok (parseBinArrayData bdata out) := by
  rw [Sliced.parseBinArrayData, parseBinArrayData, arrayBins]
  by_cases short : bdata.length < binArrayHeaderSize
  · rw [if_pos short, if_pos short, List.append_nil]
    rfl
  · have header : binArrayHeaderSize = 56 := rfl
    rw [if_neg short, if_neg short, wordAt_of_le (by omega), ok_bind]
    cases binStride? bdata with
    | none =>
        rw [List.append_nil]
        rfl
    | some stride =>
        by_cases logged : bdata.length > binArrayHeaderSize + 32
        · simp only [if_pos logged, slice_of_le (Nat.le_add_right _ 32) logged.le, ok_bind]
          exact readBins_eq binsPerArray 0 out
        · simp only [if_neg logged]
          exact readBins_eq binsPerArray 0 out

theorem parseOptionalPubkey_eq (data : List UInt8) (off : ℕ) :
    Sliced.parseOptionalPubkey data off = .ok (parseOptionalPubkey data off) := by
  rw [Sliced.parseOptionalPubkey, parseOptionalPubkey]
  by_cases empty : data.length < off + 1
  · rw [if_pos empty, if_pos (.inl empty)]
    rfl
  · have inside : off < data.length := by omega
    have tag : data.getD off 0 = data.get ⟨off, inside⟩ := by
      rw [List.getD_eq_getElem?_getD, List.getElem?_eq_getElem inside]
      rfl
    rw [if_neg empty, index_of_lt inside, ok_bind, tag]
    by_cases absent : data.get ⟨off, inside⟩ = 0
    · rw [if_pos absent, if_pos (.inr absent)]
      rfl
    · rw [if_neg absent, if_neg (not_or.mpr ⟨empty, absent⟩)]
      by_cases short : data.length < off + 33
      · rw [if_pos short, if_pos short]
        rfl
      · rcases exists_keyAt data (off + 1) (by omega) with ⟨key, at_, read⟩
        rw [if_neg short, if_neg short, at_, read]
        rfl

/-- The vaults are read where those accounts that are there reach to the end of the amount; a
missing one is an error. -/
theorem vaultReserves_iff (pool : Pubkey) (base quote : Option RpcAccount) :
    (∃ result, vaultReserves pool base quote = .ok result) ↔
      ∀ baseAccount ∈ base, ∀ quoteAccount ∈ quote,
        72 ≤ baseAccount.data.length ∧ 72 ≤ quoteAccount.data.length := by
  cases base with
  | none => exact iff_of_true ⟨_, rfl⟩ nofun
  | some base =>
    cases quote with
    | none => exact iff_of_true ⟨_, rfl⟩ fun _ _ => nofun
    | some quote =>
        simp only [Option.mem_some_iff, forall_eq']
        constructor
        · intro read
          rcases read with ⟨result, read⟩
          rcases bind_eq_ok.mp read with ⟨baseAmount, baseRead, read⟩
          rcases bind_eq_ok.mp read with ⟨quoteAmount, quoteRead, _⟩
          exact ⟨le_of_wordAt baseRead, le_of_wordAt quoteRead⟩
        · intro long
          rcases exists_keyAt base.data 0 (by omega) with ⟨_, baseAt, _⟩
          rcases exists_keyAt quote.data 0 (by omega) with ⟨_, quoteAt, _⟩
          rw [vaultReserves, parseSplTokenAmount, wordAt_of_le long.1, ok_bind,
            parseSplTokenAmount, wordAt_of_le long.2, ok_bind, readPubkeyAt, baseAt, ok_bind,
            readPubkeyAt, quoteAt, ok_bind]
          split
          · exact ⟨_, rfl⟩
          · split
            · exact ⟨_, rfl⟩
            · exact ⟨_, rfl⟩

/-- A missing vault is an error, whatever the other one is. -/
theorem vaultReserves_refuses (pool : Pubkey) {base quote : Option RpcAccount}
    (missing : base = none ∨ quote = none) :
    ∃ reason, vaultReserves pool base quote = .ok (.error reason) := by
  cases base with
  | none => exact ⟨_, rfl⟩
  | some base =>
      cases quote with
      | none => exact ⟨_, rfl⟩
      | some quote => simp at missing

theorem readPk_iff : (∃ text, readPk data off = .ok text) ↔ off + 32 ≤ data.length := by
  simp only [readPk, map_eq_ok]
  constructor
  · intro read
    rcases read with ⟨_, key, read, _⟩
    exact le_of_keyAt read
  · intro inside
    rcases exists_keyAt data off inside with ⟨key, read, _⟩
    exact ⟨_, key, read, rfl⟩

/-- The state is read where none of its fields is outside the data. -/
theorem ammv4InfoAt_iff {pos : ℕ} (poolAddress : String) :
    (∃ info, ammv4InfoAt data pos poolAddress = .ok info) ↔
      64 ≤ pos ∧ pos + 224 ≤ data.length := by
  constructor
  · intro read
    simp only [ammv4InfoAt, bind_eq_ok, pure_eq_ok] at read
    rcases read with ⟨_, _, _, _, _, _, computed, _, _, _, _, _, _, _, _, _, _, _, _,
      marketProgram, last, _⟩
    exact ⟨le_of_sub computed, readPk_iff.mp ⟨marketProgram, last⟩⟩
  · intro inside
    have field (off : ℕ) (fits : off + 32 ≤ pos + 224) : ∃ text, readPk data off = .ok text :=
      readPk_iff.mpr (by omega)
    rcases field pos (by omega) with ⟨coinMint, coinMintRead⟩
    rcases field (pos + 32) (by omega) with ⟨pcMint, pcMintRead⟩
    rcases field (pos - 64) (by omega) with ⟨coinVault, coinVaultRead⟩
    rcases field (pos - 32) (by omega) with ⟨pcVault, pcVaultRead⟩
    rcases field (pos + 96) (by omega) with ⟨openOrders, openOrdersRead⟩
    rcases field (pos + 128) (by omega) with ⟨targetOrders, targetOrdersRead⟩
    rcases field (pos + 160) (by omega) with ⟨market, marketRead⟩
    rcases field (pos + 192) (by omega) with ⟨marketProgram, marketProgramRead⟩
    rw [ammv4InfoAt, coinMintRead, ok_bind, pcMintRead, ok_bind, sub_of_le inside.1, ok_bind,
      coinVaultRead, ok_bind, sub_of_le (by omega), ok_bind, pcVaultRead, ok_bind,
      openOrdersRead, ok_bind, targetOrdersRead, ok_bind, marketRead, ok_bind,
      marketProgramRead]
    exact ⟨_, rfl⟩

/-- The account has the coin mint, behind it the other mint, and all fields around the two. -/
def StateInside (data : List UInt8) (coinMint pcMint : Pubkey) : Prop :=
  ∀ pos, position? data coinMint.bytes = some pos →
    (data.drop (pos + 32)).take 32 = pcMint.bytes → 64 ≤ pos ∧ pos + 224 ≤ data.length

/-- The scanner for the state panics where the two mints stand too near to an end, and finds
nothing in an account that is too short for the state. -/
theorem parseAmmv4WithMints_iff (data : List UInt8) (coinMint pcMint : Pubkey)
    (poolAddress : String) :
    (∃ result, parseAmmv4WithMints data coinMint pcMint poolAddress = .ok result ∧
      (data.length < 288 → result = none)) ↔ StateInside data coinMint pcMint := by
  rw [parseAmmv4WithMints, StateInside]
  cases found : position? data coinMint.bytes with
  | none => exact iff_of_true ⟨none, rfl, fun _ => rfl⟩ nofun
  | some pos =>
      simp only [Option.some_inj, forall_eq']
      by_cases cut : pos + 64 > data.length
      · have other : (data.drop (pos + 32)).take 32 ≠ pcMint.bytes := by
          intro same
          have width := congrArg List.length same
          rw [pcMint.size, List.length_take, List.length_drop] at width
          omega
        rw [if_pos cut]
        exact iff_of_true ⟨none, rfl, fun _ => rfl⟩ fun same => absurd same other
      · have width : pos + 64 - (pos + 32) = 32 := by omega
        rw [if_neg cut, slice_of_le (by omega) (by omega), ok_bind, width]
        by_cases behind : (data.drop (pos + 32)).take 32 = pcMint.bytes
        · rw [if_neg (not_not.mpr behind), ← ammv4InfoAt_iff poolAddress]
          constructor
          · intro read
            rcases read with ⟨_, read, _⟩
            rcases map_eq_ok.mp read with ⟨info, infoRead, _⟩
            exact fun _ => ⟨info, infoRead⟩
          · intro read
            rcases read behind with ⟨info, infoRead⟩
            have inside := (ammv4InfoAt_iff poolAddress).mp ⟨info, infoRead⟩
            exact ⟨some info, by rw [infoRead]; rfl, fun short => by omega⟩
        · rw [if_pos behind]
          exact iff_of_true ⟨none, rfl, fun _ => rfl⟩ fun same => absurd same behind

theorem exists_vaultsOfCoin (data : List UInt8) (posA : ℕ) (mintB : Pubkey)
    (start : posA + 32 ≤ data.length) :
    ∃ result, vaultsOfCoin data posA mintB = .ok result ∧
      (data.length < 128 → result = none) := by
  rw [vaultsOfCoin]
  by_cases far : posA ≥ 64
  · rcases exists_keyAt data (posA - 64) (by omega) with ⟨vcoin, vcoinAt, _⟩
    rcases exists_keyAt data (posA - 32) (by omega) with ⟨vpc, vpcAt, _⟩
    rw [if_pos far, sub_of_le far, ok_bind, vcoinAt, ok_bind, sub_of_le (by omega), ok_bind,
      vpcAt, ok_bind, sub_of_le (by omega), ok_bind]
    by_cases room : posA + 32 < data.length - 32
    · rw [if_pos room, slice_of_le (by omega) (by omega), ok_bind]
      split
      · exact ⟨_, rfl, fun short => by omega⟩
      · exact ⟨none, rfl, fun _ => rfl⟩
    · rw [if_neg room]
      exact ⟨none, rfl, fun _ => rfl⟩
  · rw [if_neg far]
    exact ⟨none, rfl, fun _ => rfl⟩

theorem exists_vaultsOfPc (data : List UInt8) (posA : ℕ) (mintB : Pubkey)
    (start : posA + 32 ≤ data.length) :
    ∃ result, vaultsOfPc data posA mintB = .ok result ∧ (data.length < 128 → result = none) := by
  rw [vaultsOfPc]
  by_cases far : posA ≥ 32
  · rw [if_pos far, sub_of_le (by omega), ok_bind]
    by_cases room : posA + 32 ≤ data.length - 32
    · rw [if_pos room, sub_of_le far, ok_bind, slice_of_le (by omega) (by omega), ok_bind]
      split
      · next both =>
          rcases exists_keyAt data (posA - 96) (by omega) with ⟨_, vcoinAt, _⟩
          rcases exists_keyAt data (posA - 64) (by omega) with ⟨_, vpcAt, _⟩
          rw [sub_of_le both.2, ok_bind, vcoinAt, ok_bind, sub_of_le (by omega), ok_bind, vpcAt]
          exact ⟨_, rfl, fun short => by omega⟩
      · exact ⟨none, rfl, fun _ => rfl⟩
    · rw [if_neg room]
      exact ⟨none, rfl, fun _ => rfl⟩
  · rw [if_neg far]
    exact ⟨none, rfl, fun _ => rfl⟩

/-- The scanner for the vaults looks at both ends before it slices. -/
theorem exists_findVaultsInPoolData (data : List UInt8) (mintA mintB : Pubkey) :
    ∃ result, findVaultsInPoolData data mintA mintB = .ok result ∧
      (data.length < 128 → result = none) := by
  rw [findVaultsInPoolData]
  cases found : position? data mintA.bytes with
  | none => exact ⟨none, rfl, fun _ => rfl⟩
  | some posA =>
      have start := (position?_eq_some found).1
      rw [mintA.size] at start
      rcases exists_vaultsOfCoin data posA mintB (by omega) with ⟨first, coin, short⟩
      dsimp only
      rw [coin, ok_bind]
      cases first with
      | some vaults => exact ⟨_, rfl, fun shorter => nomatch short shorter⟩
      | none => exact exists_vaultsOfPc data posA mintB (by omega)

theorem exists_poolMeta (cache : PoolMetaCache) (rpc : Rpc) (pool : Pubkey) :
    ∃ found after, poolMeta cache rpc pool = .ok (found, after) := by
  rw [poolMeta]
  split
  · exact ⟨_, _, rfl⟩
  · exact ⟨_, _, rfl⟩
  · next account _ _ =>
      rcases exists_parsePumpswapPoolMeta account.data with ⟨result, read, _⟩
      rw [read, ok_bind]
      cases result with
      | none => exact ⟨_, _, rfl⟩
      | some m => exact ⟨_, _, rfl⟩

/-- A fetch of the reserves panics where both vaults are there and one is too short. -/
theorem fetchPumpswapMetaAndReserves_iff (cache : PoolMetaCache) (rpc : Rpc) (pool : Pubkey) :
    (∃ result, fetchPumpswapMetaAndReserves cache rpc pool = .ok result) ↔
      ∀ m after base quote, poolMeta cache rpc pool = .ok (.ok m, after) →
        rpc.getAccount m.poolBaseTokenAccount = some base →
        rpc.getAccount m.poolQuoteTokenAccount = some quote →
        72 ≤ base.data.length ∧ 72 ≤ quote.data.length := by
  rcases exists_poolMeta cache rpc pool with ⟨found, after, looked⟩
  rw [fetchPumpswapMetaAndReserves, looked, ok_bind]
  cases found with
  | error reason => exact iff_of_true ⟨_, rfl⟩ nofun
  | ok m =>
      have vaults := vaultReserves_iff pool (rpc.getAccount m.poolBaseTokenAccount)
        (rpc.getAccount m.poolQuoteTokenAccount)
      constructor
      · intro fetched m' after' base quote same baseAt quoteAt
        cases same
        rcases fetched with ⟨result, fetched⟩
        rcases bind_eq_ok.mp fetched with ⟨reserves, read, _⟩
        exact vaults.mp ⟨reserves, read⟩ base baseAt quote quoteAt
      · intro long
        rcases vaults.mpr fun base baseAt quote quoteAt => long m after base quote rfl baseAt quoteAt
          with ⟨reserves, read⟩
        dsimp only
        rw [read, ok_bind]
        exact ⟨_, rfl⟩

end

/-! ## All readers -/

/-- A reader with what it is given.  The extension of the bitmap is the one optional key that
is read, at a fixed offset. -/
inductive AccountReader where
  | pumpswapPoolMeta (data : List UInt8)
  | binArray (bdata : List UInt8) (out : List DlmmBin)
  | optionalPubkey (data : List UInt8)
  | pubkeyAt (data : List UInt8)
  | splTokenAmount (data : List UInt8)
  | vaults (pool : Pubkey) (baseVaultRes quoteVaultRes : Option RpcAccount)
  | ammv4WithMints (data : List UInt8) (coinMint pcMint : Pubkey) (poolAddress : String)
  | vaultsInPoolData (data : List UInt8) (mintA mintB : Pubkey)

namespace AccountReader

/-- Whether the reader finds nothing: it returns nothing or an error, or adds no bin.  Two
readers always have a value to return. -/
def refuses : AccountReader → Except Panic Bool
  | pumpswapPoolMeta data => Option.isNone <$> parsePumpswapPoolMeta data
  | binArray bdata out => (fun bins => decide (bins = out)) <$> Sliced.parseBinArrayData bdata out
  | optionalPubkey data => Option.isNone <$> Sliced.parseOptionalPubkey data 248
  | pubkeyAt data => (fun _ => false) <$> readPubkeyAt data 0
  | splTokenAmount data => (fun _ => false) <$> parseSplTokenAmount data
  | vaults pool base quote => (fun result => !result.isOk) <$> vaultReserves pool base quote
  | ammv4WithMints data coinMint pcMint poolAddress =>
      Option.isNone <$> parseAmmv4WithMints data coinMint pcMint poolAddress
  | vaultsInPoolData data mintA mintB => Option.isNone <$> findVaultsInPoolData data mintA mintB

/-- An account does not reach to the end of what the reader is for. -/
def TooShort : AccountReader → Prop
  | pumpswapPoolMeta data => data.length < 203
  | binArray bdata _ => bdata.length < 56
  | optionalPubkey data => data.length < 281
  | pubkeyAt data => data.length < 32
  | splTokenAmount data => data.length < 72
  | vaults _ base quote =>
      (∃ account ∈ base, account.data.length < 72) ∨ ∃ account ∈ quote, account.data.length < 72
  | ammv4WithMints data _ _ _ => data.length < 288
  | vaultsInPoolData data _ _ => data.length < 128

/-- The reader does not panic, and finds nothing in an account that is too short. -/
def Total (reader : AccountReader) : Prop :=
  ∃ refused, reader.refuses = .ok refused ∧ (reader.TooShort → refused = true)

/-- What the readers need that do not look for themselves. -/
def Fits : AccountReader → Prop
  | pubkeyAt data => 32 ≤ data.length
  | splTokenAmount data => 72 ≤ data.length
  | vaults _ base quote => ∀ baseAccount ∈ base, ∀ quoteAccount ∈ quote,
      72 ≤ baseAccount.data.length ∧ 72 ≤ quoteAccount.data.length
  | ammv4WithMints data coinMint pcMint _ => StateInside data coinMint pcMint
  | _ => True

theorem exists_isNone_iff {α : Type} {computation : Except Panic (Option α)} {short : Prop} :
    (∃ refused, Option.isNone <$> computation = .ok refused ∧ (short → refused = true)) ↔
      ∃ result, computation = .ok result ∧ (short → result = none) := by
  constructor
  · intro read
    rcases read with ⟨_, read, refused⟩
    rcases map_eq_ok.mp read with ⟨result, computed, rfl⟩
    exact ⟨result, computed, fun isShort => Option.isNone_iff_eq_none.mp (refused isShort)⟩
  · intro read
    rcases read with ⟨result, computed, refused⟩
    exact ⟨_, map_eq_ok.mpr ⟨result, computed, rfl⟩,
      fun isShort => Option.isNone_iff_eq_none.mpr (refused isShort)⟩

/-- A reader that always has a value is total where the account is long enough. -/
theorem exists_value_iff {α : Type} {computation : Except Panic α} {needed length : ℕ}
    (reads : (∃ value, computation = .ok value) ↔ needed ≤ length) :
    (∃ refused, (fun _ => false) <$> computation = .ok refused ∧
      (length < needed → refused = true)) ↔ needed ≤ length := by
  rw [← reads]
  constructor
  · intro read
    rcases read with ⟨_, read, _⟩
    rcases map_eq_ok.mp read with ⟨value, computed, _⟩
    exact ⟨value, computed⟩
  · intro read
    have long := reads.mp read
    rcases read with ⟨value, computed⟩
    exact ⟨false, map_eq_ok.mpr ⟨value, computed, rfl⟩, fun short => absurd short (by omega)⟩

theorem binArray_total (bdata : List UInt8) (out : List DlmmBin) : (binArray bdata out).Total := by
  refine ⟨_, map_eq_ok.mpr ⟨_, parseBinArrayData_eq bdata out, rfl⟩, fun short => ?_⟩
  have empty : arrayBins bdata = [] := by
    rw [arrayBins]
    exact if_pos short
  rw [parseBinArrayData, empty, List.append_nil]
  exact decide_eq_true rfl

theorem optionalPubkey_total (data : List UInt8) : (optionalPubkey data).Total := by
  refine exists_isNone_iff.mpr ⟨_, parseOptionalPubkey_eq data 248, fun short => ?_⟩
  rw [parseOptionalPubkey]
  split
  · rfl
  · exact if_pos short

/-- Vaults of which one is too short are total only because the other is missing. -/
theorem vaults_total_iff (pool : Pubkey) (base quote : Option RpcAccount) :
    (vaults pool base quote).Total ↔ (vaults pool base quote).Fits := by
  rw [Fits, ← vaultReserves_iff pool]
  constructor
  · intro total
    rcases total with ⟨_, read, _⟩
    rcases map_eq_ok.mp read with ⟨result, computed, _⟩
    exact ⟨result, computed⟩
  · intro read
    have long := (vaultReserves_iff pool base quote).mp read
    by_cases missing : base = none ∨ quote = none
    · rcases vaultReserves_refuses pool missing with ⟨reason, refused⟩
      exact ⟨true, map_eq_ok.mpr ⟨_, refused, rfl⟩, fun _ => rfl⟩
    · rw [not_or] at missing
      rcases Option.ne_none_iff_exists'.mp missing.1 with ⟨baseAccount, rfl⟩
      rcases Option.ne_none_iff_exists'.mp missing.2 with ⟨quoteAccount, rfl⟩
      have both := long baseAccount rfl quoteAccount rfl
      rcases read with ⟨result, computed⟩
      refine ⟨_, map_eq_ok.mpr ⟨result, computed, rfl⟩, fun short => ?_⟩
      simp only [TooShort, Option.mem_some_iff, exists_eq_left'] at short
      omega

/-- The readers are total on the accounts that fit: all of them, but for the readers of a
vault and the scanner for the state of an AMM pool. -/
theorem total_iff (reader : AccountReader) : reader.Total ↔ reader.Fits := by
  cases reader with
  | pumpswapPoolMeta data =>
      rcases exists_parsePumpswapPoolMeta data with ⟨result, read, none⟩
      exact iff_of_true (exists_isNone_iff.mpr ⟨result, read, none.mpr⟩) trivial
  | binArray bdata out => exact iff_of_true (binArray_total bdata out) trivial
  | optionalPubkey data => exact iff_of_true (optionalPubkey_total data) trivial
  | pubkeyAt data =>
      refine exists_value_iff ⟨fun read => ?_, fun inside => ?_⟩
      · rcases read with ⟨key, read⟩
        exact (Nat.zero_add 32).symm.trans_le (le_of_keyAt read)
      · rcases exists_keyAt data 0 (by omega) with ⟨key, read, _⟩
        exact ⟨key, read⟩
  | splTokenAmount data =>
      refine exists_value_iff ⟨fun read => ?_, fun inside => ?_⟩
      · rcases read with ⟨word, read⟩
        exact le_of_wordAt read
      · exact ⟨_, wordAt_of_le inside⟩
  | vaults pool base quote => exact vaults_total_iff pool base quote
  | ammv4WithMints data coinMint pcMint poolAddress =>
      exact exists_isNone_iff.trans (parseAmmv4WithMints_iff data coinMint pcMint poolAddress)
  | vaultsInPoolData data mintA mintB =>
      exact iff_of_true (exists_isNone_iff.mpr (exists_findVaultsInPoolData data mintA mintB))
        trivial

/-- An account without data at the address of a vault. -/
theorem not_total_empty_vault : ¬∀ reader : AccountReader, reader.Total := by
  intro all
  let account : RpcAccount := { owner := .zero, data := [] }
  have fits := (vaults_total_iff .zero (some account) (some account)).mp (all _)
  exact absurd (fits account rfl account rfl).1 (by decide)

end AccountReader

end AtomicArbitrage.Bot

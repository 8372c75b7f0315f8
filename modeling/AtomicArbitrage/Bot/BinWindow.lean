import AtomicArbitrage.Bot.BinArrays
import AtomicArbitrage.Bot.StalePairs
import AtomicArbitrage.Library.Blocks

/-!
# The window of bin arrays

Every fetch of a DLMM pool derives the addresses of a few bin arrays around the active bin.
The middle array is found by a division that rounds towards zero, while the arrays number
their bins from the lower end; below zero the window is one array too high.
-/

namespace AtomicArbitrage.Bot

open Blocks

/-! ## Fetching a pool -/

/-- `parse_optional_pubkey`: a tag byte, then the address. -/
def parseOptionalPubkey (data : List UInt8) (offset : ℕ) : Option Pubkey :=
  if data.length < offset + 1 ∨ data.getD offset 0 = 0 then none
  else if data.length < offset + 33 then none
  else readKey data (offset + 1)

/-- `DlmmPoolReserves` of a DLMM pool; the fields of a Whirlpool stay zero. -/
structure DlmmPoolFetched where
  lbPair : String
  tokenXMint : String
  tokenYMint : String
  reserveX : UInt64
  reserveY : UInt64
  reserveXAddress : String
  reserveYAddress : String
  binArrayAddresses : List String
  bins : List DlmmBin
  binStep : UInt16
  baseFactor : UInt16
  activeId : Int32
  binArrayBitmapExtension : Option String

/-- The indices of the arrays from `reach` below to `reach` above the active one, as every
fetch derives them. -/
def binWindow (reach : ℕ) (activeId : ℤ) : List ℤ :=
  let activeBinArrayIdx := activeId.tdiv binsPerArray
  window reach activeBinArrayIdx

/-- A balance in the answer of a node: zero where it is missing or too short. -/
def balanceAt (accounts : List (Option RpcAccount)) (position : ℕ) : UInt64 :=
  (accounts[position]?.join.bind fun account => parseTokenAmount account.data).getD 0

/-- The bins of some accounts, behind those that were parsed before. -/
def parseAccounts (accounts : List RpcAccount) (bins : List DlmmBin) : List DlmmBin :=
  accounts.foldl (fun bins acct => parseBinArrayData acct.data bins) bins

section

variable (pda : FindProgramAddress)

/-- The address of a reserve of a pool. -/
def dlmmReservePda (lbPair mint : Pubkey) : Pubkey :=
  pda [lbPair.bytes, mint.bytes] (.ofLiteral Client.dlmmProgram)

/-- `fetch_reserves_with_metadata`. -/
def fetchReservesWithMetadata (rpc : Rpc) (poolMeta : DlmmPoolMetadata) :
    Option DlmmPoolFetched := do
  let lbPairPk ← Pubkey.fromStr? poolMeta.lbPair
  let lbPairAcct ← rpc.getAccount lbPairPk
  let data := lbPairAcct.data
  if data.length < 152 then none
  let activeId := Int32.ofInt (← readI32 data 76)
  let baseFactor ← readUnsigned data 84 2
  let bitmapExt := parseOptionalPubkey data 248
  let tokenXPk ← Pubkey.fromStr? poolMeta.tokenXMint
  let tokenYPk ← Pubkey.fromStr? poolMeta.tokenYMint
  let reserveXPda := dlmmReservePda pda lbPairPk tokenXPk
  let reserveYPda := dlmmReservePda pda lbPairPk tokenYPk
  let binArrayPubkeys := (binWindow 2 activeId.toInt).map (binArrayPda pda lbPairPk)
  let accounts ← rpc.getMultipleAccounts (reserveXPda :: reserveYPda :: binArrayPubkeys)
  let dlmmBins := parseAccounts (((accounts.drop 2).take binArrayPubkeys.length).filterMap id) []
  pure
    { lbPair := poolMeta.lbPair
      tokenXMint := poolMeta.tokenXMint
      tokenYMint := poolMeta.tokenYMint
      reserveX := balanceAt accounts 0
      reserveY := balanceAt accounts 1
      reserveXAddress := reserveXPda.toBase58
      reserveYAddress := reserveYPda.toBase58
      binArrayAddresses := binArrayPubkeys.map Pubkey.toBase58
      bins := dlmmBins
      binStep := poolMeta.binStep
      baseFactor := UInt16.ofNat baseFactor
      activeId
      binArrayBitmapExtension := bitmapExt.map Pubkey.toBase58 }

/-- The balances of the reserves: both from the cache, or both from the node. -/
def poolReserves (cache : GeyserPoolCache) (rpc : Rpc) (reserveXPda reserveYPda : Pubkey) :
    Option (UInt64 × UInt64) :=
  let tryCache (key : Pubkey) : Option UInt64 :=
    (recentData cache key.toBase58).bind parseTokenAmount
  match tryCache reserveXPda, tryCache reserveYPda with
  | some rx, some ry => some (rx, ry)
  | _, _ =>
      (rpc.getMultipleAccounts [reserveXPda, reserveYPda]).map fun accounts =>
        (balanceAt accounts 0, balanceAt accounts 1)

/-- `fetch_reserves_inner`.  The cache is read for the pair, for the reserves and for the
arrays, with requests in between; the latest slot is not read again for the arrays.  The
caller passes the DLMM program. -/
def fetchReservesInner (pairCache reserveCache arrayCache : GeyserPoolCache) (rpc : Rpc)
    (lbPairPk : Pubkey) : Option DlmmPoolFetched := do
  let data ← pairData pairCache rpc lbPairPk.toBase58 lbPairPk
  if data.length < 152 then none
  let activeId := Int32.ofInt (← readI32 data 76)
  let binStep ← readUnsigned data 80 2
  let baseFactor ← readUnsigned data 84 2
  let bitmapExt := parseOptionalPubkey data 248
  let tokenXMint ← readPubkey data 88
  let tokenYMint ← readPubkey data 120
  let tokenXPk ← Pubkey.fromStr? tokenXMint
  let tokenYPk ← Pubkey.fromStr? tokenYMint
  let reserveXPda := dlmmReservePda pda lbPairPk tokenXPk
  let reserveYPda := dlmmReservePda pda lbPairPk tokenYPk
  let (reserveX, reserveY) ← poolReserves reserveCache rpc reserveXPda reserveYPda
  let binArrayPubkeys := (binWindow 2 activeId.toInt).map (binArrayPda pda lbPairPk)
  -- the text of an address parses back, so no miss is lost
  let (bins, rpcMiss) :=
    readCached { arrayCache with latestSlot := reserveCache.latestSlot } binArrayPubkeys ([], [])
  let dlmmBins := parseAccounts (rpcMiss.filterMap rpc.getAccount) bins
  pure
    { lbPair := lbPairPk.toBase58
      tokenXMint
      tokenYMint
      reserveX
      reserveY
      reserveXAddress := reserveXPda.toBase58
      reserveYAddress := reserveYPda.toBase58
      binArrayAddresses := binArrayPubkeys.map Pubkey.toBase58
      bins := dlmmBins
      binStep := UInt16.ofNat binStep
      baseFactor := UInt16.ofNat baseFactor
      activeId
      binArrayBitmapExtension := bitmapExt.map Pubkey.toBase58 }

/-! ## What a fetch derives -/

/-- The fetches that derive a window. -/
inductive BinFetcher where
  | reservesWithMetadata
  | binsFresh
  | reservesInner

namespace BinFetcher

/-- How many arrays a fetch reads on either side of the middle one. -/
def reach : BinFetcher → ℕ
  | reservesWithMetadata => 2
  | binsFresh => 1
  | reservesInner => 2

/-- The indices of the arrays that a fetch reads. -/
def arrays (fetcher : BinFetcher) (activeId : Int32) : List ℤ :=
  binWindow fetcher.reach activeId.toInt

end BinFetcher

/-- A pool has the addresses of the arrays that a fetch reads for its active bin. -/
def DlmmPoolFetched.Derives (pda : FindProgramAddress) (fetcher : BinFetcher)
    (pool : DlmmPoolFetched) : Prop :=
  ∃ lbPairPk, Pubkey.fromStr? pool.lbPair = some lbPairPk ∧
    pool.binArrayAddresses =
      (fetcher.arrays pool.activeId).map fun idx => (binArrayPda pda lbPairPk idx).toBase58

variable {pda : FindProgramAddress} {rpc : Rpc} {pool : DlmmPoolFetched}

theorem fetchReservesWithMetadata_derives {poolMeta : DlmmPoolMetadata}
    (fetched : fetchReservesWithMetadata pda rpc poolMeta = some pool) :
    pool.Derives pda .reservesWithMetadata := by
  simp only [fetchReservesWithMetadata, Option.bind_eq_bind, Option.bind_eq_some_iff] at fetched
  rcases fetched with ⟨lbPairPk, parsed, _, _, fetched⟩
  split at fetched
  · simp only [Option.bind_none, reduceCtorEq] at fetched
  simp only [Option.bind_eq_some_iff, Option.pure_def, Option.some_inj] at fetched
  rcases fetched with ⟨_, _, _, _, _, _, _, _, _, _, rfl⟩
  exact ⟨lbPairPk, parsed, List.map_map⟩

theorem fetchReservesInner_derives {pairCache reserveCache arrayCache : GeyserPoolCache}
    {lbPairPk : Pubkey}
    (fetched : fetchReservesInner pda pairCache reserveCache arrayCache rpc lbPairPk = some pool) :
    pool.Derives pda .reservesInner := by
  rcases Option.bind_eq_some_iff.mp fetched with ⟨_, _, fetched⟩
  split at fetched
  · simp only [Option.bind_eq_bind, Option.bind_none, reduceCtorEq] at fetched
  rcases Option.bind_eq_some_iff.mp fetched with ⟨_, _, fetched⟩
  rcases Option.bind_eq_some_iff.mp fetched with ⟨_, _, fetched⟩
  rcases Option.bind_eq_some_iff.mp fetched with ⟨_, _, fetched⟩
  rcases Option.bind_eq_some_iff.mp fetched with ⟨_, _, fetched⟩
  rcases Option.bind_eq_some_iff.mp fetched with ⟨_, _, fetched⟩
  rcases Option.bind_eq_some_iff.mp fetched with ⟨_, _, fetched⟩
  rcases Option.bind_eq_some_iff.mp fetched with ⟨_, _, fetched⟩
  rcases Option.bind_eq_some_iff.mp fetched with ⟨_, _, fetched⟩
  obtain rfl := Option.some_inj.mp fetched
  exact ⟨lbPairPk, Pubkey.fromStr?_toBase58 lbPairPk, List.map_map⟩

/-- A fresh fetch asks for its arrays by their addresses. -/
theorem binArrayAddresses_eq (lbPair : Pubkey) (activeId : Int32) :
    binArrayAddresses pda lbPair activeId.toInt =
      (BinFetcher.binsFresh.arrays activeId).map (binArrayPda pda lbPair) := by
  have offsets : BinFetcher.binsFresh.arrays activeId =
      [-1, 0, 1].map fun offset => activeId.toInt.tdiv binsPerArray + offset := by
    simp [BinFetcher.arrays, BinFetcher.reach, binWindow, window, List.range_succ]
    omega
  rw [offsets, List.map_map]
  rfl

/-- A signed word that was read is kept as it is. -/
theorem toInt_readI32 {data : List UInt8} {offset : ℕ} {value : ℤ}
    (read : readI32 data offset = some value) : (Int32.ofInt value).toInt = value := by
  simp only [readI32, readUnsigned, Option.map_eq_some_iff, Option.bind_eq_bind,
    Option.bind_eq_some_iff, Option.pure_def, Option.some_inj] at read
  rcases read with ⟨_, ⟨_, ⟨bytes, bytesAt, rfl⟩, rfl⟩, rfl⟩
  have width : bytes.length ≤ 4 := by
    rw [slice?] at bytesAt
    split at bytesAt
    · rw [← Option.some_inj.mp bytesAt]
      exact List.length_take_le 4 _
    · cases bytesAt
  have small : Word64.decode bytes < 256 ^ 4 :=
    (Word64.decode_lt bytes).trans_le (Nat.pow_le_pow_right (by decide) width)
  split
  · exact Int32.toInt_ofInt_of_le (by omega) (by omega)
  · exact Int32.toInt_ofInt_of_le (by omega) (by omega)

/-- What a fresh fetch finds on the chain are the bins of its arrays. -/
theorem freshBins_arrays {chain : Chain} {lbPair : String} {bins : List DlmmBin}
    (listed : chain.freshBins pda lbPair = some bins) :
    ∃ lbPairPk activeId, Pubkey.fromStr? lbPair = some lbPairPk ∧
      bins = (BinFetcher.binsFresh.arrays activeId).flatMap fun idx =>
        chain.bins (binArrayPda pda lbPairPk idx) := by
  simp only [Chain.freshBins, Option.bind_eq_bind, Option.bind_eq_some_iff, Option.pure_def,
    Option.some_inj] at listed
  rcases listed with ⟨lbPairPk, parsed, data, _, activeId, active, rfl⟩
  refine ⟨lbPairPk, Int32.ofInt activeId, parsed, ?_⟩
  rw [← toInt_readI32 active, binArrayAddresses_eq, toInt_readI32 active, List.flatMap_map]

end

/-! ## What an array holds -/

/-- An account of a whole bin array, with the index that it was stored under. -/
structure BinArrayAccount (bdata : List UInt8) (index : ℤ) : Prop where
  indexed : (Word64.readAt bdata 8).toInt64.toInt = index
  whole : ∃ stride, binStride? bdata = some stride ∧
    binArrayHeaderSize + binsPerArray * stride ≤ bdata.length

/-- The ids of the bins that are parsed from an array that holds them all. -/
theorem binIds_parseBins {bdata : List UInt8} (arrIdx : ℤ) {stride : ℕ} (wide : 16 ≤ stride)
    (count i : ℕ) (whole : binArrayHeaderSize + (i + count) * stride ≤ bdata.length) :
    (parseBins bdata arrIdx stride count i).map DlmmBin.binId =
      (List.range' i count).map (binIdAt arrIdx) := by
  induction count generalizing i with
  | zero => rfl
  | succ count ih =>
      have split : (i + (count + 1)) * stride = i * stride + stride + count * stride := by ring
      have inside : ¬binArrayHeaderSize + i * stride + 16 > bdata.length := by omega
      have rest : binArrayHeaderSize + (i + 1 + count) * stride ≤ bdata.length := by
        rwa [Nat.add_assoc i 1, Nat.add_comm 1]
      rw [parseBins, if_neg inside, List.map_cons, ih _ rest, List.range'_succ, List.map_cons]

theorem sixteen_le_stride {bdata : List UInt8} {stride : ℕ}
    (version : binStride? bdata = some stride) : 16 ≤ stride := by
  rw [binStride?] at version
  split at version
  · exact Option.some_inj.mp version ▸ (by decide)
  · exact Option.some_inj.mp version ▸ (by decide)
  · cases version

/-- The bins of an array are numbered from its lower end. -/
theorem binIds_arrayBins {bdata : List UInt8} {index : ℤ} (account : BinArrayAccount bdata index) :
    (arrayBins bdata).map DlmmBin.binId = (List.range binsPerArray).map (binIdAt index) := by
  rcases account.whole with ⟨stride, version, whole⟩
  have header : ¬bdata.length < binArrayHeaderSize := by omega
  have parsed := binIds_parseBins index (sixteen_le_stride version) binsPerArray 0
    (by rwa [Nat.zero_add])
  rw [arrayBins, if_neg header, version, account.indexed, List.range_eq_range']
  exact parsed

/-- Near its array, the id of a bin is the one that the layout says. -/
theorem binIdAt_eq_iff {index : ℤ} {activeId : Int32} {i : ℕ} (inside : i < binsPerArray)
    (near : |70 * index - activeId.toInt| < 70) :
    (binIdAt index i) = activeId ↔ 70 * index + i = activeId.toInt := by
  have low := activeId.le_toInt
  have high := activeId.toInt_lt
  have bound : i < 70 := inside
  rw [abs_lt] at near
  have exact : Saturating.signed 64 (Saturating.signed 64 (index * 70) + i) = 70 * index + i := by
    simp only [Saturating.signed]
    omega
  rw [binIdAt, exact, ← Int32.toInt_inj, Int32.toInt_ofInt, Int.bmod_eq_emod]
  simp only [Int32.size]
  split
  · omega
  · omega

/-- An array near an id decodes to a bin of that id exactly when its block of ids holds it. -/
theorem decodes_iff {bdata : List UInt8} {index : ℤ} {activeId : Int32}
    (account : BinArrayAccount bdata index) (near : |70 * index - activeId.toInt| < 70) :
    (∃ bin ∈ arrayBins bdata, bin.binId = activeId) ↔ Holds 70 index activeId.toInt := by
  have ids : (∃ bin ∈ arrayBins bdata, bin.binId = activeId) ↔
      activeId ∈ (List.range binsPerArray).map (binIdAt index) := by
    rw [← binIds_arrayBins account, List.mem_map]
  rw [ids, List.mem_map, Holds]
  constructor
  · intro found
    rcases found with ⟨i, listed, same⟩
    have inside := List.mem_range.mp listed
    have position := (binIdAt_eq_iff inside near).mp same
    have bound : i < 70 := inside
    omega
  · intro holds
    have inside : (activeId.toInt - 70 * index).toNat < binsPerArray := by
      rw [binsPerArray]
      omega
    refine ⟨_, List.mem_range.mpr inside, (binIdAt_eq_iff inside near).mpr ?_⟩
    omega

/-- There is an account for every index: a whole array without liquidity. -/
theorem exists_binArrayAccount (index : Int64) : ∃ bdata, BinArrayAccount bdata index.toInt := by
  let bins : List UInt8 := 1 :: List.replicate (39 + 70 * 128) 0
  let front := List.replicate 8 0 ++ Word64.bytes index.toUInt64
  have width : front.length = 16 := by
    rw [List.length_append, List.length_replicate, Word64.length_bytes]
  have version : (front ++ bins).getD 16 1 = 1 := by
    rw [List.getD_eq_getElem?_getD, List.getElem?_append_right width.le, width]
    rfl
  refine ⟨front ++ bins, ?_, 128, ?_, ?_⟩
  · rw [List.append_assoc, Word64.readAt_field List.length_replicate, Int64.toInt64_toUInt64]
  · rw [binStride?, version]
    rfl
  · rw [List.length_append, width, List.length_cons, List.length_replicate]
    exact le_rfl

/-! ## Where the window stands -/

namespace BinFetcher

/-- The middle array of a row decodes to the active bin, which its block of ids holds, and the
row has as many whole arrays on both sides of that bin. -/
structure Centred (arrays : List ℤ) (activeId : Int32) : Prop where
  middle : ∃ index, arrays[arrays.length / 2]? = some index ∧
    Holds 70 index activeId.toInt ∧
    ∀ bdata, BinArrayAccount bdata index → ∃ bin ∈ arrayBins bdata, bin.binId = activeId
  balanced : Balanced 70 arrays activeId.toInt

theorem middle_arrays (fetcher : BinFetcher) (activeId : Int32) :
    (fetcher.arrays activeId)[(fetcher.arrays activeId).length / 2]? =
      some (activeId.toInt.tdiv 70) := by
  have half : (fetcher.arrays activeId).length / 2 = fetcher.reach := by
    rw [arrays, binWindow, window, List.length_map, List.length_range]
    omega
  rw [half]
  exact window_middle _ _

/-- The array that holds the active bin is read in any case. -/
theorem active_mem_arrays (fetcher : BinFetcher) (activeId : Int32) :
    activeId.toInt / 70 ∈ fetcher.arrays activeId := by
  have reaches : 1 ≤ fetcher.reach := by
    cases fetcher with
    | reservesWithMetadata => decide
    | binsFresh => decide
    | reservesInner => decide
  have rounded : activeId.toInt.tdiv binsPerArray = activeId.toInt.tdiv 70 := rfl
  rw [arrays, binWindow, mem_window, rounded, Int.tdiv_eq_ediv]
  split
  · omega
  · have sign : Int.sign 70 = 1 := rfl
    rw [sign]
    omega

/-- The window of each fetch is centred for the active bins from zero on and for those that
are the first of their array. -/
theorem centred_iff (fetcher : BinFetcher) (activeId : Int32) :
    Centred (fetcher.arrays activeId) activeId ↔
      0 ≤ activeId.toInt ∨ (70 : ℤ) ∣ activeId.toInt := by
  have positive : (0 : ℤ) < 70 := by decide
  rw [← holds_tdiv_iff positive]
  constructor
  · intro centred
    rcases centred.middle with ⟨index, middle, holds, _⟩
    obtain rfl := Option.some_inj.mp (middle.symm.trans (middle_arrays fetcher activeId))
    exact holds
  · intro holds
    have near : |70 * activeId.toInt.tdiv 70 - activeId.toInt| < 70 := by
      rw [abs_lt]
      have both := holds
      rw [Holds] at both
      omega
    exact {
      middle := ⟨_, middle_arrays fetcher activeId, holds,
        fun bdata account => (decodes_iff account near).mpr holds⟩
      balanced := (balanced_window_iff positive).mpr holds }

/-- The first bin below zero is in the array below the middle one. -/
theorem not_centred_below_zero :
    ¬∀ (fetcher : BinFetcher) (activeId : Int32),
      Centred (fetcher.arrays activeId) activeId := by
  intro all
  have middle := (all .binsFresh (-1)).middle
  rcases middle with ⟨index, middle, holds, _⟩
  obtain rfl : (0 : ℤ) = index := Option.some_inj.mp middle
  exact absurd holds.1 (by decide)

end BinFetcher

end AtomicArbitrage.Bot

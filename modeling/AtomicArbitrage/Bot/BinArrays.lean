import AtomicArbitrage.Bot.DlmmEstimate
import AtomicArbitrage.Bot.Freshness
import AtomicArbitrage.Bot.Rpc
import AtomicArbitrage.Client.Constants

/-!
# Bin arrays

The bins of a DLMM pool are stored in arrays of seventy.  Before a trade the bot fetches
three arrays around the active bin again, from the stream's cache where that is recent and
from a node where it is not.
-/

namespace AtomicArbitrage.Bot

open Program (ascii)

/-! ## Decoding -/

/-- `HEADER_SIZE` of a bin array. -/
def binArrayHeaderSize : ℕ := 8 + 48

/-- `BINS_PER_ARRAY`. -/
def binsPerArray : ℕ := 70

/-- The size of a bin in the version that the account names. -/
def binStride? (bdata : List UInt8) : Option ℕ :=
  match bdata.getD 16 1 with
  | 1 => some 128
  | 2 => some 144
  | _ => none

/-- `arr_idx.saturating_mul(70).saturating_add(i) as i32`. -/
def binIdAt (arrIdx : ℤ) (i : ℕ) : Int32 :=
  Int32.ofInt (Saturating.signed 64 (Saturating.signed 64 (arrIdx * 70) + i))

/-- The loop over the bins of an array: `count` more from the `i`-th on, as long as they are
inside the data. -/
def parseBins (bdata : List UInt8) (arrIdx : ℤ) (stride : ℕ) : (count i : ℕ) → List DlmmBin
  | 0, _ => []
  | count + 1, i =>
      let offset := binArrayHeaderSize + i * stride
      if offset + 16 > bdata.length then []
      else
        { binId := binIdAt arrIdx i
          amountX := Word64.readAt bdata offset
          amountY := Word64.readAt bdata (offset + 8) } ::
          parseBins bdata arrIdx stride count (i + 1)

/-- The bins of one array. -/
def arrayBins (bdata : List UInt8) : List DlmmBin :=
  if bdata.length < binArrayHeaderSize then []
  else
    let arrIdx := (Word64.readAt bdata 8).toInt64.toInt
    match binStride? bdata with
    | none => []
    | some stride => parseBins bdata arrIdx stride binsPerArray 0

/-- `parse_bin_array_data`, with the bins that were parsed before. -/
def parseBinArrayData (bdata : List UInt8) (out : List DlmmBin) : List DlmmBin :=
  out ++ arrayBins bdata

/-! ## Fetching -/

section

variable (pda : FindProgramAddress)

/-- The address of a bin array: its index is signed and little-endian. -/
def binArrayPda (lbPair : Pubkey) (idx : ℤ) : Pubkey :=
  pda [ascii "bin_array", lbPair.bytes, Word64.encode 8 (idx % 2 ^ 64).toNat]
    (.ofLiteral Client.dlmmProgram)

/-- The cached data of an account, if it is accepted. -/
def recentData (cache : GeyserPoolCache) (key : String) : Option (List UInt8) :=
  match cache.getWithSlot key with
  | some (cached, cachedSlot) =>
      if acceptsCached cache.latestSlot cachedSlot then some cached else none
  | none => none

/-- The addresses of the three arrays around an active bin. -/
def binArrayAddresses (lbPair : Pubkey) (activeId : ℤ) : List Pubkey :=
  let activeBinArrayIdx := activeId.tdiv binsPerArray
  [-1, 0, 1].map fun offset => binArrayPda pda lbPair (activeBinArrayIdx + offset)

/-- The loop over the addresses: bins from the cache, and the misses. -/
def readCached (cache : GeyserPoolCache) :
    List Pubkey → List DlmmBin × List Pubkey → List DlmmBin × List Pubkey
  | [], found => found
  | addr :: addresses, (bins, rpcMiss) =>
      match recentData cache addr.toBase58 with
      | some cached => readCached cache addresses (parseBinArrayData cached bins, rpcMiss)
      | none => readCached cache addresses (bins, rpcMiss ++ [addr])

/-- The account of the pair, from the cache or from the node. -/
def pairData (cache : GeyserPoolCache) (rpc : Rpc) (lbPair : String) (lbPairPk : Pubkey) :
    Option (List UInt8) :=
  match recentData cache lbPair with
  | some cached => some cached
  | none => (rpc.getAccount lbPairPk).map RpcAccount.data

/-- The bins of the misses, behind those from the cache. -/
def requestMisses (rpc : Rpc) (bins : List DlmmBin) (rpcMiss : List Pubkey) :
    Option (List DlmmBin) :=
  if rpcMiss = [] then some bins
  else
    (rpc.getMultipleAccounts rpcMiss).map fun accounts =>
      (accounts.filterMap id).foldl (fun bins acct => parseBinArrayData acct.data bins) bins

/-- `fetch_bins_fresh`.  The cache is read for the pair and, maybe after a request, again for
the arrays. -/
def fetchBinsFresh (pairCache arrayCache : GeyserPoolCache) (rpc : Rpc) (lbPair : String) :
    Option (List DlmmBin) := do
  let lbPairPk ← Pubkey.fromStr? lbPair
  let data ← pairData pairCache rpc lbPair lbPairPk
  if data.length < 152 then
    none
  let activeId ← readI32 data 76
  let (bins, rpcMiss) := readCached arrayCache (binArrayAddresses pda lbPairPk activeId) ([], [])
  requestMisses rpc bins rpcMiss

/-! ## Where the arrays were cached -/

/-- What the readers accept of a cache is what the chain has. -/
def AgreesWith (cache : GeyserPoolCache) (chain : Chain) : Prop :=
  ∀ key : Pubkey, ∀ cached, recentData cache key.toBase58 = some cached →
    (chain key).map RpcAccount.data = some cached

/-- The bins that an account of the chain holds. -/
def Chain.bins (chain : Chain) (key : Pubkey) : List DlmmBin :=
  ((chain key).map fun account => arrayBins account.data).getD []

theorem foldl_parse (chain : Chain) (keys : List Pubkey) (bins : List DlmmBin) :
    ((keys.map chain).filterMap id).foldl
        (fun bins acct => parseBinArrayData acct.data bins) bins =
      bins ++ keys.flatMap chain.bins := by
  induction keys generalizing bins with
  | nil => simp
  | cons key keys ih =>
      rw [List.map_cons, List.flatMap_cons, ← List.append_assoc]
      cases held : chain key with
      | none =>
          rw [List.filterMap_cons_none rfl, ih, Chain.bins, held, Option.map_none,
            Option.getD_none, List.append_nil]
      | some account =>
          have head : chain.bins key = arrayBins account.data := by
            rw [Chain.bins, held, Option.map_some, Option.getD_some]
          rw [head]
          exact ih (parseBinArrayData account.data bins)

/-- Hits and misses together are the bins of all addresses. -/
theorem readCached_perm {cache : GeyserPoolCache} {chain : Chain}
    (agrees : AgreesWith cache chain) (addresses : List Pubkey)
    (found : List DlmmBin × List Pubkey) :
    let rest := readCached cache addresses found
    (rest.1 ++ rest.2.flatMap chain.bins).Perm
      (found.1 ++ found.2.flatMap chain.bins ++ addresses.flatMap chain.bins) := by
  induction addresses generalizing found with
  | nil => simp [readCached]
  | cons addr addresses ih =>
      cases hit : recentData cache addr.toBase58 with
      | some cached =>
          have held : chain.bins addr = arrayBins cached := by
            rcases Option.map_eq_some_iff.mp (agrees addr cached hit) with ⟨account, at_, same⟩
            rw [Chain.bins, at_, Option.map_some, Option.getD_some, same]
          rw [readCached, hit]
          refine (ih _).trans ?_
          rw [parseBinArrayData, List.flatMap_cons, held, ← List.append_assoc]
          apply List.Perm.append_right
          rw [List.append_assoc, List.append_assoc]
          exact List.perm_append_comm.append_left _
      | none =>
          rw [readCached, hit]
          refine (ih _).trans ?_
          rw [List.flatMap_append, List.flatMap_cons, List.flatMap_cons, List.flatMap_nil,
            List.append_nil, List.append_assoc, List.append_assoc, List.append_assoc]

/-- The data of the pair is what the chain has, wherever it is from. -/
theorem pairData_eq {cache : GeyserPoolCache} {rpc : Rpc} {chain : Chain}
    (agrees : AgreesWith cache chain) (answers : AnswersFrom rpc chain) {lbPair : String}
    {lbPairPk : Pubkey} (parsed : Pubkey.fromStr? lbPair = some lbPairPk) {data : List UInt8}
    (read : pairData cache rpc lbPair lbPairPk = some data) :
    (chain lbPairPk).map RpcAccount.data = some data := by
  rw [pairData] at read
  split at read
  · next cached hit =>
      rw [← Pubkey.toBase58_of_fromStr? parsed] at hit
      rw [← read]
      exact agrees lbPairPk cached hit
  · rcases Option.map_eq_some_iff.mp read with ⟨account, answered, same⟩
    rw [answers.account _ _ answered, Option.map_some, same]

/-- So are the misses. -/
theorem requestMisses_eq {rpc : Rpc} {chain : Chain} (answers : AnswersFrom rpc chain)
    {cached bins : List DlmmBin} {rpcMiss : List Pubkey}
    (answered : requestMisses rpc cached rpcMiss = some bins) :
    bins = cached ++ rpcMiss.flatMap chain.bins := by
  rw [requestMisses] at answered
  split at answered
  · next none =>
      rw [none, List.flatMap_nil, List.append_nil]
      exact (Option.some_inj.mp answered).symm
  · rcases Option.map_eq_some_iff.mp answered with ⟨accounts, listed, rfl⟩
    rw [answers.accounts _ _ listed]
    exact foldl_parse chain rpcMiss cached

/-- The bins around the active bin of a pair, in the order of their arrays. -/
def Chain.freshBins (chain : Chain) (lbPair : String) : Option (List DlmmBin) := do
  let lbPairPk ← Pubkey.fromStr? lbPair
  let data ← (chain lbPairPk).map RpcAccount.data
  let activeId ← readI32 data 76
  return (binArrayAddresses pda lbPairPk activeId).flatMap chain.bins

/-- Caches and nodes that agree with the chain only permute its bins. -/
theorem fetchBinsFresh_perm {pairCache arrayCache : GeyserPoolCache} {rpc : Rpc} {chain : Chain}
    (pairAgrees : AgreesWith pairCache chain) (arraysAgree : AgreesWith arrayCache chain)
    (answers : AnswersFrom rpc chain) {lbPair : String} {bins : List DlmmBin}
    (fetched : fetchBinsFresh pda pairCache arrayCache rpc lbPair = some bins) :
    ∃ listed, chain.freshBins pda lbPair = some listed ∧ bins.Perm listed := by
  simp only [fetchBinsFresh, Option.bind_eq_bind, Option.bind_eq_some_iff] at fetched
  rcases fetched with ⟨lbPairPk, parsed, data, read, fetched⟩
  have held := pairData_eq pairAgrees answers parsed read
  split at fetched
  · simp only [Option.bind_none, reduceCtorEq] at fetched
  rcases Option.bind_eq_some_iff.mp fetched with ⟨activeId, active, answered⟩
  have found := requestMisses_eq answers answered
  have listed : chain.freshBins pda lbPair =
      some ((binArrayAddresses pda lbPairPk activeId).flatMap chain.bins) := by
    simp only [Chain.freshBins, parsed, held, active, Option.bind_eq_bind, Option.bind_some,
      Option.pure_def]
  refine ⟨_, listed, ?_⟩
  rw [found]
  exact readCached_perm arraysAgree (binArrayAddresses pda lbPairPk activeId) ([], [])

/-- Bins with distinct ids are priced alike in every order; in particular two fetches that
read one chain through whatever caches lead to one price. -/
theorem estimate_order_independent (pda : FindProgramAddress) :
    (∀ bins other : List DlmmBin, bins.Perm other → DistinctIds bins →
      ∀ amountIn isXToY fee, estimateDlmmSwapOutputFull bins amountIn isXToY fee =
        estimateDlmmSwapOutputFull other amountIn isXToY fee) ∧
    ∀ chain pairCache arrayCache pairCache' arrayCache' rpc rpc' lbPair bins other,
      AgreesWith pairCache chain → AgreesWith arrayCache chain →
      AgreesWith pairCache' chain → AgreesWith arrayCache' chain →
      AnswersFrom rpc chain → AnswersFrom rpc' chain →
      fetchBinsFresh pda pairCache arrayCache rpc lbPair = some bins →
      fetchBinsFresh pda pairCache' arrayCache' rpc' lbPair = some other →
      DistinctIds bins →
      ∀ amountIn isXToY fee, estimateDlmmSwapOutputFull bins amountIn isXToY fee =
        estimateDlmmSwapOutputFull other amountIn isXToY fee := by
  constructor
  · intro bins other permuted distinct
    exact estimateFull_congr permuted distinct
  · intro chain pairCache arrayCache pairCache' arrayCache' rpc rpc' lbPair bins other
      pairAgrees arraysAgree pairAgrees' arraysAgree' answers answers' fetched fetched' distinct
    rcases fetchBinsFresh_perm pda pairAgrees arraysAgree answers fetched with
      ⟨listed, same, perm⟩
    rcases fetchBinsFresh_perm pda pairAgrees' arraysAgree' answers' fetched' with
      ⟨listed', same', perm'⟩
    have one : listed = listed' := Option.some_inj.mp (same.symm.trans same')
    exact estimateFull_congr (perm.trans (one ▸ perm'.symm)) distinct

end

/-! ## Samples -/

def samplePair : Pubkey := .ofLiteral "5rCf1DM8LjKTw4YqhnoLcngyZYeNnQqztScTogYHAS6"
def sampleArray : Pubkey := .ofLiteral "41J5yxxAQbkoCPFoxcGA9QhsvEEEVnDihmEyQPYPwWzQ"
def sampleArrayBefore : Pubkey := .ofLiteral "FaEgvDgeDxdKFDrZnDt7W6qzJTSLQrg4orMLCG35GFxz"
def sampleArrayBehind : Pubkey := .ofLiteral "HKCz5fKmPKxEvsgd68W9EBHpDz8o5FfEjQUyasXUCsnh"

/-- The deployed derivation, as far as the sample needs it. -/
def sampleArrayPda : FindProgramAddress := fun seeds _ =>
  if seeds = [ascii "bin_array", samplePair.bytes, Word64.encode 8 0] then sampleArray
  else if seeds = [ascii "bin_array", samplePair.bytes, Word64.encode 8 1] then
    sampleArrayBehind
  else sampleArrayBefore

/-- An array of the first version with one bin, a thousand for two thousand. -/
def sampleArrayData : List UInt8 :=
  List.replicate 16 0 ++ [1] ++ List.replicate 39 0 ++ Word64.bytes 1000 ++ Word64.bytes 2000

/-- The array behind it, with a bin of a thousand for fifteen hundred and one of seven hundred
for nine hundred. -/
def sampleArrayBehindData : List UInt8 :=
  List.replicate 8 0 ++ Word64.bytes 1 ++ [1] ++ List.replicate 39 0 ++ Word64.bytes 1000 ++
    Word64.bytes 1500 ++ List.replicate 112 0 ++ Word64.bytes 700 ++ Word64.bytes 900

/-- A pair whose active bin is the first of its middle array; there is none before that. -/
def sampleBinChain : Chain := fun key =>
  if key = samplePair then some { owner := .zero, data := List.replicate 152 0 }
  else if key = sampleArray then some { owner := .zero, data := sampleArrayData }
  else if key = sampleArrayBehind then some { owner := .zero, data := sampleArrayBehindData }
  else none

/-- A cache with the later array in it. -/
def sampleBinCache : GeyserPoolCache :=
  GeyserPoolCache.empty.put sampleArrayBehind.toBase58 sampleArrayBehindData [] 7

theorem sampleBinCache_agrees : AgreesWith sampleBinCache sampleBinChain := by
  intro key cached hit
  by_cases array : key = sampleArrayBehind
  · subst array
    have put : recentData sampleBinCache sampleArrayBehind.toBase58 =
        some sampleArrayBehindData := by
      simp [recentData, GeyserPoolCache.getWithSlot, sampleBinCache, GeyserPoolCache.put,
        GeyserPoolCache.empty, acceptsCached]
    have held : (sampleBinChain sampleArrayBehind).map RpcAccount.data =
        some sampleArrayBehindData := by decide +kernel
    rw [← hit, put, held]
  · have different : key.toBase58 ≠ sampleArrayBehind.toBase58 :=
      fun same => array (Pubkey.toBase58_injective same)
    have missing : recentData sampleBinCache key.toBase58 = none := by
      simp [recentData, GeyserPoolCache.getWithSlot, sampleBinCache, GeyserPoolCache.put,
        GeyserPoolCache.empty, different]
    rw [missing] at hit
    cases hit

theorem emptyCache_agrees (chain : Chain) : AgreesWith .empty chain := by
  intro key cached hit
  cases hit

/-- With the later array in the cache its bins come first, and without it they come last. -/
theorem estimate_order_independent_sample :
    ∃ bins other,
      fetchBinsFresh sampleArrayPda .empty sampleBinCache (.ofChain sampleBinChain)
        samplePair.toBase58 = some bins ∧
      fetchBinsFresh sampleArrayPda .empty .empty (.ofChain sampleBinChain)
        samplePair.toBase58 = some other ∧
      bins ≠ other ∧
      estimateDlmmSwapOutputFull bins 1500 true (25 / 10000) =
        estimateDlmmSwapOutputFull other 1500 true (25 / 10000) := by
  have fetched : fetchBinsFresh sampleArrayPda .empty sampleBinCache (.ofChain sampleBinChain)
      samplePair.toBase58 = some [⟨70, 1000, 1500⟩, ⟨71, 700, 900⟩, ⟨0, 1000, 2000⟩] := by
    decide +kernel
  have fetched' : fetchBinsFresh sampleArrayPda .empty .empty (.ofChain sampleBinChain)
      samplePair.toBase58 = some [⟨0, 1000, 2000⟩, ⟨70, 1000, 1500⟩, ⟨71, 700, 900⟩] := by
    decide +kernel
  rcases estimate_order_independent sampleArrayPda with ⟨_, fetches⟩
  exact ⟨_, _, fetched, fetched', by decide, fetches sampleBinChain _ _ _ _ _ _ _ _ _
    (emptyCache_agrees _) sampleBinCache_agrees (emptyCache_agrees _) (emptyCache_agrees _)
    (answersFrom_ofChain _) (answersFrom_ofChain _) fetched fetched' (by decide) 1500 true
    (25 / 10000)⟩

end AtomicArbitrage.Bot

import AtomicArbitrage.Bot.DlmmDiscovery

/-!
# Answers of the DLMM discovery

A result that the cache repeats is one pool of what was read before, by a call that may have
asked for less.
-/

namespace AtomicArbitrage.Bot

/-! ## Runs -/

/-- What a call waits for is of pools that it quotes, or of different pools. -/
def DlmmTask.Sound (task : DlmmTask) : Prop :=
  match task.stage with
  | .metadata metas =>
      ∀ poolMeta ∈ metas, task.query.Quotes poolMeta.tokenXMint poolMeta.tokenYMint
  | .programAccounts _ => True
  | .reserves lbPairs => lbPairs.Nodup

namespace DlmmAnswer

/-- The pools are quoted as asked, and as deep. -/
def Deep (answer : DlmmAnswer) : Prop :=
  ∀ pool ∈ answer.pools, answer.query.Quotes pool.tokenXMint pool.tokenYMint ∧
    answer.query.minReserveLamports ≤ answer.query.solRes pool

/-- The answer is the deepest pool of an answer for the same pair, less than ten seconds
before. -/
structure Repeats (answer earlier : DlmmAnswer) : Prop where
  read : earlier.cached = false
  solMint : earlier.query.solMint = answer.query.solMint
  memeMint : earlier.query.memeMint = answer.query.memeMint
  before : earlier.time ≤ answer.time
  recent : elapsedSecs earlier.time answer.time < dlmmReserveTtlSecs
  pools : answer.pools = (earlier.query.best earlier.pools).toList

/-- An answer has been read, or repeats one that has been. -/
structure Sound (answers : List DlmmAnswer) (answer : DlmmAnswer) : Prop where
  read : answer.cached = false → answer.Deep
  repeated : answer.cached = true → ∃ earlier ∈ answers, answer.Repeats earlier

/-- The entry remembers the deepest pool of the answer. -/
structure Fills (answer : DlmmAnswer) (key : String)
    (entry : CacheEntry (Option DlmmPoolFetched)) : Prop where
  read : answer.cached = false
  key : answer.query.key = key
  time : answer.time = entry.updatedAt
  best : answer.query.best answer.pools = entry.data

theorem Sound.mono {answers more : List DlmmAnswer} {answer : DlmmAnswer}
    (sound : answer.Sound answers) (subset : answers ⊆ more) : answer.Sound more where
  read := sound.read
  repeated := by
    intro cached
    rcases sound.repeated cached with ⟨earlier, inside, repeats⟩
    exact ⟨earlier, subset inside, repeats⟩

end DlmmAnswer

namespace DlmmStore

/-- What holds of the store after every run. -/
structure Sound (s : DlmmStore) : Prop where
  metadata : MetadataSound s.metadata s.metadataTable
  tasks : ∀ task ∈ s.tasks, task.Sound
  past : ∀ answer ∈ s.answers, answer.time ≤ s.now
  remembered : ∀ key entry, AssocMap.get s.pools key = some entry →
    ∃ answer ∈ s.answers, answer.Fills key entry
  answers : ∀ answer ∈ s.answers, answer.Sound s.answers

section

variable {s : DlmmStore} {query : DlmmQuery}

/-- A new result of a call. -/
theorem Sound.answered (sound : s.Sound) {cached : Bool} {pools : List DlmmPoolFetched}
    {entries : PoolCache (Option DlmmPoolFetched)}
    (remembered : ∀ key entry, AssocMap.get entries key = some entry →
      AssocMap.get s.pools key = some entry ∨
        DlmmAnswer.Fills { query, time := s.now, cached, pools } key entry)
    (new : DlmmAnswer.Sound s.answers { query, time := s.now, cached, pools }) :
    ({ s with pools := entries }.answer query cached pools).Sound where
  metadata := sound.metadata
  tasks := sound.tasks
  past := by
    intro answer inside
    rcases List.mem_cons.mp inside with rfl | inside
    · exact le_refl s.now
    · exact sound.past answer inside
  remembered := by
    intro key entry held
    rcases remembered key entry held with before | here
    · rcases sound.remembered key entry before with ⟨answer, inside, fills⟩
      exact ⟨answer, List.mem_cons_of_mem _ inside, fills⟩
    · exact ⟨_, List.mem_cons_self, here⟩
  answers := by
    intro answer inside
    rcases List.mem_cons.mp inside with rfl | inside
    · exact new.mono (List.subset_cons_self _ _)
    · exact (sound.answers answer inside).mono (List.subset_cons_self _ _)

/-- A call that has read its pools caches the deepest one. -/
theorem Sound.read (sound : s.Sound) {entry : CacheEntry (Option DlmmPoolFetched)}
    {pools : List DlmmPoolFetched} (now : entry.updatedAt = s.now)
    (best : entry.data = query.best pools)
    (deep : DlmmAnswer.Deep { query, time := s.now, cached := false, pools }) :
    ({ s with pools := AssocMap.insert s.pools query.key entry }.answer query false
      pools).Sound := by
  apply sound.answered
  · intro key other held
    rw [AssocMap.get_insert] at held
    split at held
    · next same =>
        rw [← Option.some_inj.mp held, same]
        exact .inr ⟨rfl, rfl, now.symm, best.symm⟩
    · exact .inl held
  · refine ⟨fun _ => deep, ?_⟩
    intro cached
    cases cached

/-- A call that the cache answers repeats what was read. -/
theorem Sound.repeats (sound : s.Sound) {pools : List DlmmPoolFetched}
    (cached : s.cachedPools query = some pools) : (s.answer query true pools).Sound := by
  simp only [cachedPools, Option.bind_eq_bind, Option.bind_eq_some_iff] at cached
  rcases cached with ⟨entry, held, young⟩
  split at young
  · next recent =>
      rcases sound.remembered query.key entry held with ⟨earlier, inside, fills⟩
      rcases DlmmQuery.key_inj fills.key with ⟨solMint, memeMint⟩
      refine Sound.answered sound (fun key other there => .inl there) ⟨?_, fun _ => ?_⟩
      · intro read
        cases read
      · refine ⟨earlier, inside, fills.read, solMint, memeMint, sound.past earlier inside, ?_, ?_⟩
        · rw [fills.time]
          exact recent
        · rw [fills.best]
          exact (Option.some_inj.mp young).symm
  · cases young

/-- A call that waits. -/
theorem Sound.waits (sound : s.Sound) {stage : DlmmStage}
    (kept : DlmmTask.Sound { query, stage }) : (s.wait query stage).Sound where
  metadata := sound.metadata
  tasks := by
    intro task inside
    rcases List.mem_append.mp inside with inside | last
    · exact sound.tasks task inside
    · rw [List.mem_singleton.mp last]
      exact kept
  past := sound.past
  remembered := sound.remembered
  answers := sound.answers

theorem Sound.discovers (sound : s.Sound) : (s.discover query).Sound := sound.waits trivial

/-- Other metadata, with its table. -/
theorem Sound.withMetadata (sound : s.Sound) {t : DlmmStore}
    (kept : MetadataSound t.metadata t.metadataTable) (now : t.now = s.now)
    (tasks : t.tasks = s.tasks) (pools : t.pools = s.pools) (answers : t.answers = s.answers) :
    t.Sound where
  metadata := kept
  tasks := by
    rw [tasks]
    exact sound.tasks
  past := by
    rw [answers, now]
    exact sound.past
  remembered := by
    rw [answers, pools]
    exact sound.remembered
  answers := by
    rw [answers]
    exact sound.answers

theorem sound_ask (sound : s.Sound) : (s.ask query).Sound := by
  rw [ask]
  split
  · next pools cached => exact sound.repeats cached
  · split
    · exact sound.discovers
    · apply sound.waits
      intro poolMeta inside
      have listed := (List.mem_filter.mp inside).1
      cases held : AssocMap.get s.metadata query.key with
      | none =>
          rw [held] at listed
          exact absurd listed List.not_mem_nil
      | some pools =>
          rw [held] at listed
          exact sound.metadata.quoted query pools held poolMeta listed

/-- An eviction changes the metadata and its table only. -/
theorem evictDead_eq (dead : List String) :
    ∃ metadata metadataTable, s.evictDead query dead = { s with metadata, metadataTable } := by
  simp only [evictDead]
  split
  · exact ⟨s.metadata, s.metadataTable, rfl⟩
  · split
    · exact ⟨s.metadata, s.metadataTable, rfl⟩
    · exact ⟨_, _, rfl⟩

theorem Sound.evictsDead (sound : s.Sound) (dead : List String) :
    (s.evictDead query dead).Sound := by
  have kept : MetadataSound (s.evictDead query dead).metadata
      (s.evictDead query dead).metadataTable :=
    metadataSound_evictDead sound.metadata dead
  rcases @evictDead_eq s query dead with ⟨metadata, metadataTable, evicted⟩
  rw [evicted] at kept ⊢
  exact sound.withMetadata kept rfl rfl rfl rfl

/-- Stale pairs leave the cache and the metadata. -/
theorem Sound.cleansUp (sound : s.Sound) (lbPairs : List Pubkey)
    (allReserves : List (Option DlmmPoolFetched)) :
    (s.cleanupStaleLbPairs lbPairs allReserves).Sound where
  metadata := metadataSound_cleanup sound.metadata lbPairs allReserves
  tasks := sound.tasks
  past := sound.past
  remembered := by
    intro key entry held
    simp only [cleanupStaleLbPairs] at held
    rw [AssocMap.get_retain, Option.filter_eq_some_iff] at held
    exact sound.remembered key entry held.1
  answers := sound.answers

/-- A call that has read different pools caches the deepest one and keeps them all as
metadata. -/
theorem Sound.saves (sound : s.Sound) {pools : List DlmmPoolFetched} (some : pools ≠ [])
    (distinct : (pools.map DlmmPoolFetched.lbPair).Nodup)
    (deep : DlmmAnswer.Deep { query, time := s.now, cached := false, pools }) :
    (((s.cacheBest query pools).saveMetadata query pools).answer query false pools).Sound := by
  have kept := metadataSound_save sound.metadata some distinct fun pool inside =>
    (deep pool inside).1
  have saved : (s.saveMetadata query pools).Sound := sound.withMetadata kept rfl rfl rfl rfl
  exact saved.read rfl rfl deep

/-- Pools that are found are different. -/
theorem sound_programAccountsAnswered (sound : s.Sound) (known : Option Pubkey)
    (found : List Pubkey) : (s.programAccountsAnswered query known found).Sound := by
  have paired (lbPairs : LbPairs) : Sound { s with lbPairs } :=
    sound.withMetadata sound.metadata rfl rfl rfl rfl
  have rest (t : DlmmStore) (kept : t.Sound) :
      (if (allLbPairs known found).isEmpty then (t.cacheNegative query).answer query false []
        else t.wait query (.reserves (allLbPairs known found))).Sound := by
    split
    · exact kept.read rfl rfl (List.forall_mem_nil _)
    · exact kept.waits (nodup_allLbPairs known found)
  simp only [programAccountsAnswered]
  apply rest
  split
  · exact sound
  · exact paired _

variable {pda : FindProgramAddress}

/-- What is fetched for the metadata is quoted as the metadata says. -/
theorem sound_metadataAnswered (sound : s.Sound) (rpc : Rpc) {metas : List DlmmPoolMetadata}
    (quoted : ∀ poolMeta ∈ metas, query.Quotes poolMeta.tokenXMint poolMeta.tokenYMint) :
    (s.metadataAnswered query pda rpc metas).Sound := by
  simp only [metadataAnswered]
  have skipped (skip : AssocMap String ℕ) : Sound { s with zeroSkip := skip } :=
    sound.withMetadata sound.metadata rfl rfl rfl rfl
  split
  · exact Sound.discovers (Sound.evictsDead (skipped _) _)
  · apply Sound.read (Sound.evictsDead (skipped _) _) rfl rfl
    intro pool inside
    rcases List.mem_filter.mp inside with ⟨live, deep⟩
    rcases List.mem_filterMap.mp live with ⟨result, asked, fetched⟩
    rcases List.mem_map.mp asked with ⟨poolMeta, listed, rfl⟩
    rcases mints_of_fetchReservesWithMetadata fetched with ⟨xMint, yMint⟩
    rw [xMint, yMint]
    exact ⟨quoted poolMeta listed, of_decide_eq_true deep⟩

/-- Of what is fetched for the pools of the program, only what is quoted as asked is used. -/
theorem sound_reservesAnswered (sound : s.Sound) (replies : DlmmReplies) {lbPairs : List Pubkey}
    (distinct : lbPairs.Nodup) : (s.reservesAnswered query pda replies lbPairs).Sound := by
  let allReserves := lbPairs.map fun pair =>
    fetchReservesInner pda (replies.pairCache pair) (replies.reserveCache pair)
      (replies.arrayCache pair) replies.rpc pair
  have skipped (skip : AssocMap String ℕ) :
      Sound { s.cleanupStaleLbPairs lbPairs allReserves with zeroSkip := skip } :=
    (sound.cleansUp lbPairs allReserves).withMetadata
      (sound.cleansUp lbPairs allReserves).metadata rfl rfl rfl rfl
  simp only [reservesAnswered]
  split
  · exact (skipped _).read rfl rfl (List.forall_mem_nil _)
  · next some =>
      apply (skipped _).saves
      · intro none
        exact some (List.isEmpty_iff.mpr none)
      · have named (pair : Pubkey) (pool : DlmmPoolFetched) :=
          @lbPair_of_fetchReservesInner pda replies.rpc pool (replies.pairCache pair)
            (replies.reserveCache pair) (replies.arrayCache pair) pair
        exact (nodup_fetched named distinct).sublist
          ((List.filter_sublist.trans List.filter_sublist).map _)
      · intro pool inside
        rcases List.mem_filter.mp inside with ⟨quoted, deep⟩
        exact ⟨of_decide_eq_true (List.mem_filter.mp quoted).2,
          UInt64.not_lt.mp (of_decide_eq_true deep)⟩

theorem sound_resume (sound : s.Sound) (replies : DlmmReplies) {task : DlmmTask}
    (kept : task.Sound) : (s.resume pda replies task).Sound := by
  rcases task with ⟨query, stage⟩
  cases stage with
  | metadata metas => exact sound_metadataAnswered sound replies.rpc kept
  | programAccounts known =>
      exact sound_programAccountsAnswered sound known replies.programAccounts
  | reserves lbPairs => exact sound_reservesAnswered sound replies kept

theorem sound_restart (sound : s.Sound)
    (pairOrder : String × String → String × String → Bool)
    (metadataOrder : DlmmMetadataRow → DlmmMetadataRow → Bool) :
    (s.restart pairOrder metadataOrder).Sound where
  metadata := metadataSound_load sound.metadata (List.mergeSort_perm _ _)
  tasks := List.forall_mem_nil _
  past := sound.past
  remembered := by
    intro key entry held
    cases held
  answers := sound.answers

theorem sound_step (sound : s.Sound) (action : Step) : (s.step pda action).Sound := by
  cases action with
  | tick nanos =>
      refine ⟨sound.metadata, sound.tasks, ?_, sound.remembered, sound.answers⟩
      intro answer inside
      exact (sound.past answer inside).trans (Nat.le_add_right s.now nanos)
  | wallClock unixTime => exact sound.withMetadata sound.metadata rfl rfl rfl rfl
  | asked query => exact sound_ask sound
  | told position replies =>
      simp only [step]
      split
      · exact sound
      · next task waits =>
          have others : Sound { s with tasks := s.tasks.eraseIdx position } :=
            ⟨sound.metadata, fun other inside => sound.tasks other (List.mem_of_mem_eraseIdx inside),
              sound.past, sound.remembered, sound.answers⟩
          exact sound_resume others replies (sound.tasks task (List.mem_of_getElem? waits))
  | swapSeen mintA mintB lbPair => exact sound.withMetadata sound.metadata rfl rfl rfl rfl
  | restarted pairOrder metadataOrder => exact sound_restart sound pairOrder metadataOrder

end

theorem sound_start (uptime unixTime : ℕ) : (start uptime unixTime).Sound where
  metadata := by
    refine ⟨⟨?_, ?_⟩, .refl [], ?_⟩
    · intro key pools held
      cases held
    · intro key pools held
      cases held
    · intro query pools held
      cases held
  tasks := List.forall_mem_nil _
  past := List.forall_mem_nil _
  remembered := by
    intro key entry held
    cases held
  answers := List.forall_mem_nil _

theorem sound_final (pda : FindProgramAddress) (uptime unixTime : ℕ) (run : List Step) :
    (Runs.final (step pda) (start uptime unixTime) run).Sound :=
  Runs.final_of_kept run (sound_start uptime unixTime) fun _ action sound =>
    sound_step sound action

/-- A call adds only its own tasks and results. -/
structure Goes (query : DlmmQuery) (s t : DlmmStore) : Prop where
  tasks : ∀ task ∈ t.tasks, task ∈ s.tasks ∨ task.query = query
  answers : ∀ answer ∈ t.answers, answer ∈ s.answers ∨ answer.query = query

section

variable {query : DlmmQuery} {s t : DlmmStore}

theorem goes_answer (tasks : t.tasks = s.tasks) (answers : t.answers = s.answers) (cached : Bool)
    (pools : List DlmmPoolFetched) : Goes query s (t.answer query cached pools) where
  tasks := fun task inside => .inl (tasks ▸ inside)
  answers := by
    intro answer inside
    rcases List.mem_cons.mp inside with rfl | before
    · exact .inr rfl
    · exact .inl (answers ▸ before)

theorem goes_wait (tasks : t.tasks = s.tasks) (answers : t.answers = s.answers)
    (stage : DlmmStage) : Goes query s (t.wait query stage) where
  tasks := by
    intro task inside
    rcases List.mem_append.mp inside with before | last
    · exact .inl (tasks ▸ before)
    · rw [List.mem_singleton.mp last]
      exact .inr rfl
  answers := fun answer inside => .inl (answers ▸ inside)

theorem goes_ask : Goes query s (s.ask query) := by
  rw [ask]
  split
  · exact goes_answer (by rfl) (by rfl) _ _
  · split
    · exact goes_wait (by rfl) (by rfl) _
    · exact goes_wait (by rfl) (by rfl) _

theorem goes_resume (pda : FindProgramAddress) (replies : DlmmReplies) (task : DlmmTask) :
    Goes task.query s (s.resume pda replies task) := by
  rcases task with ⟨query, stage⟩
  cases stage with
  | metadata metas =>
      simp only [resume, metadataAnswered]
      have evicted (t : DlmmStore) (dead : List String) :
          (t.evictDead query dead).tasks = t.tasks ∧
            (t.evictDead query dead).answers = t.answers := by
        rcases @evictDead_eq t query dead with ⟨metadata, metadataTable, evicted⟩
        rw [evicted]
        exact ⟨rfl, rfl⟩
      split
      · apply goes_wait
        · exact (evicted _ _).1
        · exact (evicted _ _).2
      · apply goes_answer
        · exact (evicted _ _).1
        · exact (evicted _ _).2
  | programAccounts known =>
      simp only [resume, programAccountsAnswered]
      split
      · split
        · exact goes_answer (by rfl) (by rfl) _ _
        · exact goes_answer (by rfl) (by rfl) _ _
      · split
        · exact goes_wait (by rfl) (by rfl) _
        · exact goes_wait (by rfl) (by rfl) _
  | reserves lbPairs =>
      simp only [resume, reservesAnswered]
      split
      · exact goes_answer (by rfl) (by rfl) _ _
      · exact goes_answer (by rfl) (by rfl) _ _

variable {allowed : DlmmQuery → Prop}

/-- All calls so far are allowed. -/
structure Only (allowed : DlmmQuery → Prop) (s : DlmmStore) : Prop where
  tasks : ∀ task ∈ s.tasks, allowed task.query
  answers : ∀ answer ∈ s.answers, allowed answer.query

theorem Only.goes (only : s.Only allowed) (asked : allowed query) (goes : Goes query s t) :
    t.Only allowed where
  tasks := by
    intro task inside
    rcases goes.tasks task inside with before | here
    · exact only.tasks task before
    · rw [here]
      exact asked
  answers := by
    intro answer inside
    rcases goes.answers answer inside with before | here
    · exact only.answers answer before
    · rw [here]
      exact asked

theorem only_step (pda : FindProgramAddress) (only : s.Only allowed) {action : Step}
    (asked : ∀ query, action = .asked query → allowed query) :
    (s.step pda action).Only allowed := by
  cases action with
  | tick | wallClock | swapSeen => exact ⟨only.tasks, only.answers⟩
  | asked query => exact only.goes (asked query rfl) goes_ask
  | told position replies =>
      simp only [step]
      split
      · exact only
      · next task waits =>
          have others : Only allowed { s with tasks := s.tasks.eraseIdx position } :=
            ⟨fun other inside => only.tasks other (List.mem_of_mem_eraseIdx inside), only.answers⟩
          exact others.goes (only.tasks task (List.mem_of_getElem? waits))
            (goes_resume pda replies task)
  | restarted => exact ⟨List.forall_mem_nil _, only.answers⟩

theorem only_final (pda : FindProgramAddress) (only : s.Only allowed) (run : List Step)
    (asked : ∀ query, Step.asked query ∈ run → allowed query) :
    (Runs.final (step pda) s run).Only allowed := by
  induction run generalizing s with
  | nil => exact only
  | cons action run ih =>
      apply ih
      · apply only_step pda only
        intro query same
        exact asked query (same ▸ List.mem_cons_self)
      · exact fun query inside => asked query (List.mem_cons_of_mem action inside)

end

/-- What repeats an answer of the same depth is as deep. -/
theorem deep_of_repeats {answer earlier : DlmmAnswer} (deep : earlier.Deep)
    (repeats : answer.Repeats earlier)
    (same : answer.query.minReserveLamports = earlier.query.minReserveLamports) :
    answer.Deep := by
  intro pool inside
  rw [repeats.pools, Option.mem_toList] at inside
  have member : pool ∈ earlier.pools := List.mem_reverse.mp (List.argmax_mem inside)
  rcases deep pool member with ⟨quoted, reserve⟩
  rw [same, DlmmQuery.Quotes, DlmmQuery.solRes, ← repeats.solMint]
  exact ⟨quoted, reserve⟩

/-! ## A pool of a given depth -/

/-- The mint of a token. -/
def sampleMint : Pubkey := .ofLiteral "DezXAZ8z7PnrnRJjz3wXBoRgixCa6xjnB7YaB1pPB263"

/-- A pair account: its bytes up to the mints, then wrapped SOL and the token. -/
def samplePairData : List UInt8 :=
  List.replicate 88 0 ++ (Pubkey.ofLiteral Client.nativeSolMint).bytes ++ sampleMint.bytes

/-- A token account. -/
def sampleTokenData (amount : UInt64) : List UInt8 :=
  List.replicate 64 0 ++ Word64.bytes amount

/-- A node for which all accounts are this pair and its first reserve has this balance. -/
def sampleRpc (reserve : UInt64) : Rpc where
  getAccount _ := some { owner := .zero, data := samplePairData }
  getMultipleAccounts _ := some [some { owner := .zero, data := sampleTokenData reserve }]

def sampleReplies (reserve : UInt64) : DlmmReplies where
  rpc := sampleRpc reserve
  pairCache _ := .empty
  reserveCache _ := .empty
  arrayCache _ := .empty
  programAccounts := [.zero]

/-- A call for the token and SOL. -/
def sampleQuery (minReserveLamports : UInt64) : DlmmQuery where
  solMint := Client.nativeSolMint
  memeMint := sampleMint.toBase58
  minReserveLamports
  quoted := .inl rfl
  traded := by decide +kernel
  plain := by decide +kernel

theorem parse_sampleTokenData (amount : UInt64) :
    parseTokenAmount (sampleTokenData amount) = some amount := by
  have field := @Word64.readAt_field (List.replicate 64 0) [] amount 64 (List.length_replicate)
  rw [List.append_nil] at field
  rw [parseTokenAmount, if_neg, sampleTokenData, field]
  rw [sampleTokenData, List.length_append, List.length_replicate, Word64.length_bytes]
  exact lt_irrefl 72

/-- The pool is fetched with its first reserve. -/
theorem fetched_sample (pda : FindProgramAddress) (reserve : UInt64) :
    ∃ pool, fetchReservesInner pda .empty .empty .empty (sampleRpc reserve) .zero = some pool ∧
      pool.tokenXMint = Client.nativeSolMint ∧ pool.reserveX = reserve := by
  have mintX : readPubkey samplePairData 88 = some Client.nativeSolMint := by decide +kernel
  have mintY : readPubkey samplePairData 120 = some sampleMint.toBase58 := by decide +kernel
  have active : readI32 samplePairData 76 = some 0 := by decide +kernel
  have step : readUnsigned samplePairData 80 2 = some 0 := by decide +kernel
  have factor : readUnsigned samplePairData 84 2 = some 0 := by decide +kernel
  have long : ¬samplePairData.length < 152 := by decide +kernel
  have sol : Pubkey.fromStr? Client.nativeSolMint = some (.ofLiteral Client.nativeSolMint) := by
    decide +kernel
  have pair : pairData .empty (sampleRpc reserve) Pubkey.zero.toBase58 .zero =
      some samplePairData := rfl
  have amounts (x y : Pubkey) :
      poolReserves .empty (sampleRpc reserve) x y = some (reserve, 0) := by
    have missing (key : String) : recentData .empty key = none := rfl
    simp only [poolReserves, missing, Option.bind_none, sampleRpc, Option.map_some, balanceAt,
      List.getElem?_cons_zero, Option.join_some, Option.bind_some, parse_sampleTokenData,
      Option.getD_some]
    rfl
  simp only [fetchReservesInner, pair, Option.bind_eq_bind, Option.bind_some, if_neg long, active,
    step, factor, mintX, mintY, sol, Pubkey.fromStr?_toBase58, amounts]
  exact ⟨_, rfl, rfl, rfl⟩

/-- The only pool of a call is cached. -/
theorem get_reservesAnswered {pda : FindProgramAddress} {s : DlmmStore} {query : DlmmQuery}
    {replies : DlmmReplies} {pair : Pubkey} {pool : DlmmPoolFetched}
    (fetched : fetchReservesInner pda (replies.pairCache pair) (replies.reserveCache pair)
      (replies.arrayCache pair) replies.rpc pair = some pool)
    (quoted : query.Quotes pool.tokenXMint pool.tokenYMint)
    (deep : ¬query.solRes pool < query.minReserveLamports) :
    AssocMap.get (s.reservesAnswered query pda replies [pair]).pools query.key =
      some (.new (some pool) s.now) := by
  simp only [reservesAnswered, List.map_cons, List.map_nil, fetched, List.filterMap_cons, id,
    List.filterMap_nil, List.filter_cons, quoted, deep, decide_true, decide_false, if_true,
    List.filter_nil, List.isEmpty_cons, not_false_eq_true]
  rw [if_neg Bool.false_ne_true, answer, saveMetadata, cacheBest, AssocMap.get_insert, if_pos rfl,
    DlmmQuery.best, List.reverse_singleton, List.argmax_singleton]
  rfl

theorem now_reservesAnswered (s : DlmmStore) (query : DlmmQuery) (pda : FindProgramAddress)
    (replies : DlmmReplies) (lbPairs : List Pubkey) :
    (s.reservesAnswered query pda replies lbPairs).now = s.now := by
  simp only [reservesAnswered]
  split
  · rfl
  · rfl

/-- What has just been cached is an answer. -/
theorem cachedPools_of_new {s : DlmmStore} {query : DlmmQuery} {pool : DlmmPoolFetched}
    (held : AssocMap.get s.pools query.key = some (.new (some pool) s.now)) :
    s.cachedPools query = some [pool] := by
  have young : (CacheEntry.new (some pool) s.now).ageSecs s.now < dlmmReserveTtlSecs := by
    simp [CacheEntry.new, CacheEntry.ageSecs, elapsedSecs, dlmmReserveTtlSecs]
  rw [cachedPools, held]
  exact if_pos young

/-- The sample call goes on to the reserves of the pair. -/
theorem reaches_reserves (pda : FindProgramAddress) (uptime unixTime : ℕ) (low : UInt64) :
    ∃ lbPairs, Runs.final (step pda) (start uptime unixTime)
        [.asked (sampleQuery low), .told 0 (sampleReplies low), .told 0 (sampleReplies low)] =
      ({ start uptime unixTime with lbPairs } : DlmmStore).reservesAnswered (sampleQuery low) pda
        (sampleReplies low) [.zero] := by
  have asked : step pda (start uptime unixTime) (.asked (sampleQuery low)) =
      { start uptime unixTime with
        tasks := [{ query := sampleQuery low, stage := .programAccounts none }] } := rfl
  have found : ∃ lbPairs, step pda
      { start uptime unixTime with
        tasks := [{ query := sampleQuery low, stage := .programAccounts none }] }
      (.told 0 (sampleReplies low)) =
        { start uptime unixTime with
          lbPairs
          tasks := [{ query := sampleQuery low, stage := .reserves [.zero] }] } := ⟨_, rfl⟩
  rcases found with ⟨lbPairs, found⟩
  have told : step pda
      { start uptime unixTime with
        lbPairs
        tasks := [{ query := sampleQuery low, stage := .reserves [.zero] }] }
      (.told 0 (sampleReplies low)) =
        ({ start uptime unixTime with lbPairs } : DlmmStore).reservesAnswered (sampleQuery low) pda
          (sampleReplies low) [.zero] := rfl
  refine ⟨lbPairs, ?_⟩
  rw [Runs.final_cons, asked, Runs.final_cons, found, Runs.final_cons, told, Runs.final_nil]

/-- A call asks for a pool of just the depth it wants, and another call is told of this pool. -/
theorem repeated_sample (pda : FindProgramAddress) (uptime unixTime : ℕ) (low high : UInt64) :
    ∃ answer ∈ (Runs.final (step pda) (start uptime unixTime)
        [.asked (sampleQuery low), .told 0 (sampleReplies low), .told 0 (sampleReplies low),
          .asked (sampleQuery high)]).answers,
      answer.query = sampleQuery high ∧
        ∃ pool ∈ answer.pools, answer.query.solRes pool = low := by
  rcases fetched_sample pda low with ⟨pool, fetched, mintX, reserveX⟩
  have amount (depth : UInt64) : (sampleQuery depth).solRes pool = low :=
    (if_pos mintX).trans reserveX
  have quoted : (sampleQuery low).Quotes pool.tokenXMint pool.tokenYMint := .inl mintX
  have deep : ¬(sampleQuery low).solRes pool < low := by
    rw [amount]
    exact UInt64.lt_irrefl low
  rcases reaches_reserves pda uptime unixTime low with ⟨lbPairs, reached⟩
  have held := @get_reservesAnswered pda { start uptime unixTime with lbPairs } (sampleQuery low)
    (sampleReplies low) .zero pool fetched quoted deep
  have clock := now_reservesAnswered { start uptime unixTime with lbPairs } (sampleQuery low) pda
    (sampleReplies low) [.zero]
  rw [← reached] at held clock
  generalize before : Runs.final (step pda) (start uptime unixTime)
    [.asked (sampleQuery low), .told 0 (sampleReplies low), .told 0 (sampleReplies low)] = s
    at held clock
  have cached : s.cachedPools (sampleQuery high) = some [pool] :=
    cachedPools_of_new (clock ▸ held)
  have last : Runs.final (step pda) (start uptime unixTime)
      [.asked (sampleQuery low), .told 0 (sampleReplies low), .told 0 (sampleReplies low),
        .asked (sampleQuery high)] = s.answer (sampleQuery high) true [pool] := by
    have append := @Runs.final_append _ _ (step pda) (start uptime unixTime)
      [.asked (sampleQuery low), .told 0 (sampleReplies low), .told 0 (sampleReplies low)]
      [.asked (sampleQuery high)]
    rw [before, Runs.final_cons, Runs.final_nil, step, ask, cached] at append
    exact append
  rw [last]
  exact ⟨_, List.mem_cons_self, rfl, pool, List.mem_singleton_self pool, amount high⟩

/-- Results are as deep as asked, in every run of allowed calls, exactly when these all ask for
one depth. -/
theorem deep_iff_subsingleton (pda : FindProgramAddress) (uptime unixTime : ℕ)
    (allowed : Set UInt64) :
    (∀ run : List Step,
      (∀ query, Step.asked query ∈ run → query.minReserveLamports ∈ allowed) →
        ∀ answer ∈ (Runs.final (step pda) (start uptime unixTime) run).answers, answer.Deep) ↔
      allowed.Subsingleton := by
  constructor
  · intro always low lowAllowed high highAllowed
    have le (low high : UInt64) (lowAllowed : low ∈ allowed) (highAllowed : high ∈ allowed) :
        high ≤ low := by
      rcases repeated_sample pda uptime unixTime low high with
        ⟨answer, inside, query, pool, member, amount⟩
      have deep := always _ (by
        intro query asked
        simp only [List.mem_cons, Step.asked.injEq, reduceCtorEq, List.not_mem_nil, or_false,
          false_or] at asked
        rcases asked with rfl | rfl
        · exact lowAllowed
        · exact highAllowed) answer inside pool member
      rw [amount, query] at deep
      exact deep.2
    exact UInt64.le_antisymm (le high low highAllowed lowAllowed)
      (le low high lowAllowed highAllowed)
  · intro one run asked answer inside
    have sound := sound_final pda uptime unixTime run
    have only : Only (fun query => query.minReserveLamports ∈ allowed)
        (Runs.final (step pda) (start uptime unixTime) run) :=
      only_final pda ⟨List.forall_mem_nil _, List.forall_mem_nil _⟩ run asked
    cases cached : answer.cached with
    | false => exact (sound.answers answer inside).read cached
    | true =>
        rcases (sound.answers answer inside).repeated cached with ⟨earlier, before, repeats⟩
        apply deep_of_repeats ((sound.answers earlier before).read repeats.read) repeats
        exact one (only.answers answer inside) (only.answers earlier before)

end DlmmStore

end AtomicArbitrage.Bot

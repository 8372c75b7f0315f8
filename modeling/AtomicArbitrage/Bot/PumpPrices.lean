import AtomicArbitrage.Bot.PumpPools
import AtomicArbitrage.Library.Runs

/-!
# Prices of PumpSwap pools

What the two caches promise in every run.
-/

namespace AtomicArbitrage.Bot

/-- An address of a pool is from the service, or it is derived. -/
def KnownPool (pda : FindProgramAddress) (log : List PumpEvent) (mint : String) (pool : Pubkey) :
    Prop :=
  .named mint pool ∈ log ∨
    ∃ creator mintPk, Pubkey.fromStr? mint = some mintPk ∧ pool = pumpSwapPoolPda pda creator mintPk

/-- A call that waits for a pool waits for one that the service has named. -/
def PumpTask.Sound (log : List PumpEvent) (task : PumpTask) : Prop :=
  match task.stage with
  | .pool _ poolAddr poolPk =>
      Pubkey.fromStr? poolAddr = some poolPk ∧ .named task.mint poolPk ∈ log
  | _ => True

/-- A price is of a coin that has been read, or repeats one less than ten seconds old; an address
is known. -/
def PumpEvent.Sound (pda : FindProgramAddress) (log : List PumpEvent) : PumpEvent → Prop
  | .named _ _ => True
  | .priced mint _ false coin => ∀ state, coin = some state → state.Genuine log mint
  | .priced mint time true coin =>
      ∃ earlier, .priced mint earlier false coin ∈ log ∧ earlier ≤ time ∧
        elapsedSecs earlier time < pumpfunReserveTtlSecs
  | .resolved mint pool => ∀ key, pool = some key → KnownPool pda log mint key

namespace PumpPools

variable {pda : FindProgramAddress} {s : PumpPools} {mint : String}

/-- What holds of the caches after every run. -/
structure Sound (pda : FindProgramAddress) (s : PumpPools) : Prop where
  tasks : ∀ task ∈ s.tasks, task.Sound s.log
  past : ∀ mint time cached coin, .priced mint time cached coin ∈ s.log → time ≤ s.now
  coins : ∀ mint entry, AssocMap.get s.coins mint = some entry →
    .priced mint entry.updatedAt false entry.data ∈ s.log
  addresses : ∀ mint pool, AssocMap.get s.addresses mint = some pool → KnownPool pda s.log mint pool
  log : ∀ event ∈ s.log, event.Sound pda s.log

/-- What is sound stays so as more happens. -/
theorem knownPool_mono {log more : List PumpEvent} (subset : log ⊆ more) {pool : Pubkey}
    (known : KnownPool pda log mint pool) : KnownPool pda more mint pool :=
  known.imp_left fun named => subset named

theorem genuine_mono {log more : List PumpEvent} (subset : log ⊆ more) {coin : PumpCoin}
    (genuine : coin.Genuine log mint) : coin.Genuine more mint where
  ofMint := genuine.ofMint
  positive := genuine.positive
  pool := by
    intro isPool
    rcases genuine.pool isPool with ⟨pool, parsed, named⟩
    exact ⟨pool, parsed, subset named⟩

theorem taskSound_mono {log more : List PumpEvent} (subset : log ⊆ more) {task : PumpTask}
    (sound : task.Sound log) : task.Sound more := by
  rcases task with ⟨mint, stage⟩
  cases stage with
  | pool coin poolAddr poolPk => exact ⟨sound.1, subset sound.2⟩
  | coin | curve | fallback | creator => trivial

theorem eventSound_mono {log more : List PumpEvent} (subset : log ⊆ more) {event : PumpEvent}
    (sound : event.Sound pda log) : event.Sound pda more := by
  cases event with
  | named => trivial
  | priced mint time cached coin =>
      cases cached with
      | false => exact fun state same => genuine_mono subset (sound state same)
      | true =>
          rcases sound with ⟨earlier, inside, before, recent⟩
          exact ⟨earlier, subset inside, before, recent⟩
  | resolved mint pool => exact fun key same => knownPool_mono subset (sound key same)

/-- Something that happens now. -/
theorem Sound.records (sound : s.Sound pda) {event : PumpEvent}
    {coins : PoolCache (Option PumpCoin)} {tasks : List PumpTask}
    {addresses : AssocMap String Pubkey}
    (new : event.Sound pda (event :: s.log))
    (now : ∀ mint time cached coin, event = .priced mint time cached coin → time ≤ s.now)
    (kept : ∀ mint entry, AssocMap.get coins mint = some entry →
      AssocMap.get s.coins mint = some entry ∨
        event = .priced mint entry.updatedAt false entry.data)
    (known : ∀ mint pool, AssocMap.get addresses mint = some pool →
      KnownPool pda (event :: s.log) mint pool)
    (waiting : ∀ task ∈ tasks, task ∈ s.tasks ∨ task.Sound (event :: s.log)) :
    Sound pda { s with log := event :: s.log, coins, tasks, addresses } where
  tasks := by
    intro task inside
    rcases waiting task inside with before | here
    · exact taskSound_mono (List.subset_cons_self _ _) (sound.tasks task before)
    · exact here
  past := by
    intro mint time cached coin inside
    rcases List.mem_cons.mp inside with here | before
    · exact now mint time cached coin here.symm
    · exact sound.past mint time cached coin before
  coins := by
    intro mint entry held
    rcases kept mint entry held with before | here
    · exact List.mem_cons_of_mem _ (sound.coins mint entry before)
    · exact here ▸ List.mem_cons_self
  addresses := known
  log := by
    intro other inside
    rcases List.mem_cons.mp inside with rfl | before
    · exact new
    · exact eventSound_mono (List.subset_cons_self _ _) (sound.log other before)

/-- An event that leaves the rest. -/
theorem Sound.record (sound : s.Sound pda) {event : PumpEvent}
    (new : event.Sound pda (event :: s.log))
    (now : ∀ mint time cached coin, event = .priced mint time cached coin → time ≤ s.now) :
    (s.record event).Sound pda :=
  sound.records new now (fun _ _ => .inl)
    (fun mint pool held => knownPool_mono (List.subset_cons_self _ _)
      (sound.addresses mint pool held))
    (fun _ => .inl)

theorem Sound.wait (sound : s.Sound pda) {stage : PumpStage}
    (kept : PumpTask.Sound s.log { mint, stage }) : (s.wait mint stage).Sound pda where
  tasks := by
    intro task inside
    rcases List.mem_append.mp inside with before | last
    · exact sound.tasks task before
    · rw [List.mem_singleton.mp last]
      exact kept
  past := sound.past
  coins := sound.coins
  addresses := sound.addresses
  log := sound.log

theorem Sound.keepAddress (sound : s.Sound pda) {free : Bool} {pool : Pubkey}
    (known : KnownPool pda s.log mint pool) : (s.keepAddress mint free pool).Sound pda := by
  rw [PumpPools.keepAddress]
  split
  · refine ⟨sound.tasks, sound.past, sound.coins, ?_, sound.log⟩
    intro other held there
    rw [AssocMap.get_insert] at there
    split at there
    · next same =>
        rw [same, ← Option.some_inj.mp there]
        exact known
    · exact sound.addresses other held there
  · exact sound

/-- A price that is returned now. -/
theorem Sound.prices (sound : s.Sound pda) {cached : Bool} {coin : Option PumpCoin}
    (new : PumpEvent.Sound pda (.priced mint s.now cached coin :: s.log)
      (.priced mint s.now cached coin)) :
    (s.record (.priced mint s.now cached coin)).Sound pda := by
  apply sound.record new
  intro other time again result same
  cases same
  exact le_refl s.now

/-- A result without a coin. -/
theorem Sound.pricedNone (sound : s.Sound pda) :
    (s.record (.priced mint s.now false none)).Sound pda := by
  apply sound.prices
  intro state same
  cases same

theorem Sound.cacheMiss (sound : s.Sound pda) {coin : Option PumpCoin}
    {entry : CacheEntry (Option PumpCoin)} (data : entry.data = coin)
    (now : entry.updatedAt = s.now)
    (genuine : ∀ state, coin = some state → state.Genuine s.log mint) :
    (s.cacheMiss mint coin entry).Sound pda := by
  refine sound.records ?_ ?_ ?_ ?_ (fun _ => .inl)
  · exact fun state same => genuine_mono (List.subset_cons_self _ _) (genuine state same)
  · intro other time cached coin same
    cases same
    exact le_refl s.now
  · intro other held there
    rw [AssocMap.get_insert] at there
    split at there
    · next same =>
        rw [← Option.some_inj.mp there, same, data, now]
        exact .inr rfl
    · exact .inl there
  · intro other pool held
    exact knownPool_mono (List.subset_cons_self _ _) (sound.addresses other pool held)

/-- An address that is returned. -/
theorem Sound.resolved (sound : s.Sound pda) {pool : Option Pubkey}
    (known : ∀ key, pool = some key → KnownPool pda s.log mint key) :
    (s.record (.resolved mint pool)).Sound pda := by
  apply sound.record
  · exact fun key same => knownPool_mono (List.subset_cons_self _ _) (known key same)
  · intro other time cached coin same
    cases same

/-- The service names a pool. -/
theorem Sound.names (sound : s.Sound pda) (free : Bool) (pool : Pubkey) :
    ((s.keepAddress mint free pool).record (.named mint pool)).Sound pda := by
  have before (other : String) (held : Pubkey)
      (there : AssocMap.get s.addresses other = some held) :
      KnownPool pda (.named mint pool :: s.log) other held :=
    knownPool_mono (List.subset_cons_self _ _) (sound.addresses other held there)
  have now (other : String) (time : Instant) (cached : Bool) (coin : Option PumpCoin)
      (same : PumpEvent.named mint pool = .priced other time cached coin) : time ≤ s.now := by
    cases same
  rw [PumpPools.keepAddress]
  split
  · refine sound.records trivial now (fun _ _ => .inl) ?_ (fun _ => .inl)
    intro other held there
    rw [AssocMap.get_insert] at there
    split at there
    · next same =>
        rw [same, ← Option.some_inj.mp there]
        exact .inl List.mem_cons_self
    · exact before other held there
  · exact sound.records trivial now (fun _ _ => .inl) before (fun _ => .inl)

theorem sound_toFallback (sound : s.Sound pda) : (s.toFallback mint).Sound pda := by
  rw [toFallback]
  split
  · exact sound.pricedNone
  · exact sound.wait trivial

theorem sound_afterCurve (sound : s.Sound pda) (coin : CoinV2Meta) :
    (s.afterCurve mint coin).Sound pda := by
  rw [afterCurve]
  split
  · exact sound.pricedNone
  · exact sound_toFallback sound

theorem sound_toCurve (sound : s.Sound pda) (coin : CoinV2Meta) :
    (s.toCurve mint coin).Sound pda := by
  rw [toCurve]
  split
  · exact sound_afterCurve sound coin
  · exact sound.wait trivial

/-- A young entry is of a price that has been read less than ten seconds before. -/
theorem sound_askCoin (sound : s.Sound pda) : (s.askCoin mint).Sound pda := by
  rw [askCoin]
  split
  · next entry held =>
      split
      · next young =>
          have read := sound.coins mint entry held
          apply sound.prices
          exact ⟨entry.updatedAt, List.mem_cons_of_mem _ read, sound.past _ _ _ _ read, young⟩
      · exact sound.wait trivial
  · exact sound.wait trivial

theorem namedBy_eq_some {coin : CoinV2Meta} {poolAddr : String} {poolPk : Pubkey}
    (named : namedBy coin = some (poolAddr, poolPk)) :
    coin.pumpSwapPool = some poolAddr ∧ Pubkey.fromStr? poolAddr = some poolPk := by
  simp only [namedBy, Option.bind_eq_bind, Option.bind_eq_some_iff] at named
  rcases named with ⟨addr, there, key, parsed, same⟩
  cases same
  exact ⟨there, parsed⟩

theorem sound_coinAnswered (sound : s.Sound pda) (free : Bool) (resp : Option Json) :
    (s.coinAnswered mint free resp).Sound pda := by
  rw [coinAnswered]
  split
  · exact sound_toFallback sound
  · next coin answered =>
      split
      · exact sound_toCurve sound coin
      · next poolAddr poolPk named =>
          have kept := @Sound.names pda s mint sound free poolPk
          split
          · exact kept.wait ⟨(namedBy_eq_some named).2, List.mem_cons_self⟩
          · exact sound_toCurve kept coin

theorem sound_poolAnswered (sound : s.Sound pda) (replies : PumpReplies) (coin : CoinV2Meta)
    {poolAddr : String} {poolPk : Pubkey} (parsed : Pubkey.fromStr? poolAddr = some poolPk)
    (named : .named mint poolPk ∈ s.log) :
    (s.poolAnswered mint replies coin poolAddr poolPk).Sound pda := by
  rw [poolAnswered]
  split
  · next state read =>
      rcases readPumpswapPool_eq_some read with ⟨ofMint, addr, positive⟩
      refine sound.cacheMiss rfl rfl ?_
      intro other same
      cases same
      exact ⟨ofMint, positive, fun _ => ⟨poolPk, addr ▸ parsed, named⟩⟩
  · exact sound_toCurve sound coin

/-- A curve with reserves. -/
theorem Sound.curve (sound : s.Sound pda) {rpc : Rpc} {bcPk : Pubkey} {bcAddr : String}
    {state : PumpCoin} (read : readBondingCurveAt rpc bcPk bcAddr mint = some state)
    (positive : state.Positive) :
    (s.cacheMiss mint (some state) (.new (some state) s.now)).Sound pda := by
  rcases readBondingCurveAt_eq_some read with ⟨ofMint, isCurve⟩
  refine sound.cacheMiss rfl rfl ?_
  intro other same
  cases same
  refine ⟨ofMint, positive, ?_⟩
  intro isPool
  rw [isCurve] at isPool
  cases isPool

theorem sound_curveAnswered (sound : s.Sound pda) (rpc : Rpc) (coin : CoinV2Meta)
    (bcPk : Pubkey) : (s.curveAnswered mint rpc coin bcPk).Sound pda := by
  rw [curveAnswered]
  split
  · next state read =>
      split
      · next positive => exact sound.curve read positive
      · exact sound_afterCurve sound coin
  · exact sound_afterCurve sound coin

theorem sound_fallbackAnswered (sound : s.Sound pda) (rpc : Rpc) (mintPk : Pubkey) :
    (s.fallbackAnswered mint pda rpc mintPk).Sound pda := by
  simp only [fallbackAnswered]
  split
  · next state found =>
      rcases Option.filter_eq_some_iff.mp found with ⟨read, positive⟩
      exact sound.curve read (of_decide_eq_true positive)
  · refine sound.cacheMiss rfl rfl ?_
    intro state same
    cases same

/-! ### Addresses -/

/-- What a look-up of an address can do: it leaves the caches, or it keeps the address of a pool
whose price is cached, which the service has named. -/
theorem getPumpswapPoolAddress_cases (sound : s.Sound pda)
    (addressesFree coinsFree backfillFree : Bool) :
    (∃ found, s.getPumpswapPoolAddress mint addressesFree coinsFree backfillFree = (found, s) ∧
      ∀ pool, found = some pool → AssocMap.get s.addresses mint = some pool) ∨
    ∃ pool, s.getPumpswapPoolAddress mint addressesFree coinsFree backfillFree =
        (some pool, s.keepAddress mint backfillFree pool) ∧
      AssocMap.get s.addresses mint = none ∧ .named mint pool ∈ s.log := by
  have nothing : ∀ pool : Pubkey, none = some pool →
      AssocMap.get s.addresses mint = some pool := by
    intro pool same
    cases same
  rw [getPumpswapPoolAddress]
  split
  · exact .inl ⟨none, rfl, nothing⟩
  · split
    · next addr held => exact .inl ⟨some addr, rfl, fun pool same => same ▸ held⟩
    · next missing =>
        split
        · exact .inl ⟨none, rfl, nothing⟩
        · simp only
          split
          · next pool found =>
              refine .inr ⟨pool, rfl, missing, ?_⟩
              simp only [Option.bind_eq_bind, Option.bind_eq_some_iff] at found
              rcases found with ⟨entry, held, state, data, parsed⟩
              split at parsed
              · next isPool =>
                  have genuine := sound.log _ (sound.coins mint entry held) state data
                  rcases genuine.pool isPool with ⟨known, address, named⟩
                  rw [parsed] at address
                  exact Option.some_inj.mp address ▸ named
              · cases parsed
          · exact .inl ⟨none, rfl, nothing⟩

theorem sound_askAddress (sound : s.Sound pda) (addressesFree coinsFree backfillFree : Bool) :
    (s.askAddress mint addressesFree coinsFree backfillFree).Sound pda := by
  rw [askAddress]
  rcases @getPumpswapPoolAddress_cases pda s mint sound addressesFree coinsFree backfillFree with
    ⟨found, same, held⟩ | ⟨pool, same, -, named⟩
  · rw [same]
    cases found with
    | none =>
        simp only
        split
        · exact sound.wait trivial
        · apply sound.resolved
          intro key none
          cases none
    | some addr =>
        apply sound.resolved
        intro key same
        exact sound.addresses mint key (held key same)
  · rw [same]
    have kept : (s.keepAddress mint backfillFree pool).Sound pda := sound.keepAddress (.inl named)
    apply kept.resolved
    intro key same
    rw [PumpPools.keepAddress]
    cases same
    split <;> exact .inl named

theorem derivedPool_eq_some {rpc : Rpc} {pool : Pubkey}
    (derived : derivedPool pda rpc mint = some pool) :
    ∃ creator mintPk, Pubkey.fromStr? mint = some mintPk ∧
      pool = pumpSwapPoolPda pda creator mintPk := by
  simp only [derivedPool, Option.bind_eq_bind, Option.bind_eq_some_iff] at derived
  rcases derived with ⟨mintPk, parsed, account, -, rest⟩
  split at rest
  · cases rest
  · rcases Option.bind_eq_some_iff.mp rest with ⟨creator, -, same⟩
    exact ⟨creator, mintPk, parsed, (Option.some_inj.mp same).symm⟩

theorem sound_creatorAnswered (sound : s.Sound pda) (free : Bool) (rpc : Rpc) :
    (s.creatorAnswered mint pda free rpc).Sound pda := by
  rw [creatorAnswered]
  split
  · apply sound.resolved
    intro key none
    cases none
  · next pool derived =>
      have known (log : List PumpEvent) : KnownPool pda log mint pool :=
        .inr (derivedPool_eq_some derived)
      have kept : (s.keepAddress mint free pool).Sound pda := sound.keepAddress (known s.log)
      apply kept.resolved
      intro key same
      cases same
      exact known _

theorem sound_resume (sound : s.Sound pda) (replies : PumpReplies) {task : PumpTask}
    (kept : task.Sound s.log) : (s.resume task.mint pda replies task.stage).Sound pda := by
  rcases task with ⟨mint, stage⟩
  cases stage with
  | coin => exact sound_coinAnswered sound replies.free replies.resp
  | pool coin poolAddr poolPk => exact sound_poolAnswered sound replies coin kept.1 kept.2
  | curve coin bcPk => exact sound_curveAnswered sound replies.rpc coin bcPk
  | fallback mintPk => exact sound_fallbackAnswered sound replies.rpc mintPk
  | creator => exact sound_creatorAnswered sound replies.free replies.rpc

/-- A task is taken up. -/
theorem Sound.takes (sound : s.Sound pda) (position : ℕ) :
    Sound pda { s with tasks := s.tasks.eraseIdx position } where
  tasks := fun task inside => sound.tasks task (List.mem_of_mem_eraseIdx inside)
  past := sound.past
  coins := sound.coins
  addresses := sound.addresses
  log := sound.log

theorem sound_step (sound : s.Sound pda) (action : Step) : (step pda s action).Sound pda := by
  cases action with
  | tick nanos =>
      refine ⟨sound.tasks, ?_, sound.coins, sound.addresses, sound.log⟩
      intro mint time cached coin inside
      exact (sound.past mint time cached coin inside).trans (Nat.le_add_right s.now nanos)
  | coinAsked mint => exact sound_askCoin sound
  | addressAsked mint addressesFree coinsFree backfillFree =>
      exact sound_askAddress sound addressesFree coinsFree backfillFree
  | told position replies =>
      simp only [step]
      split
      · exact sound
      · next task waits =>
          exact sound_resume (sound.takes position) replies
            (sound.tasks task (List.mem_of_getElem? waits))

theorem sound_start (pda : FindProgramAddress) (uptime : ℕ) : (start uptime).Sound pda where
  tasks := List.forall_mem_nil _
  past := by
    intro mint time cached coin inside
    cases inside
  coins := by
    intro mint entry held
    cases held
  addresses := by
    intro mint pool held
    cases held
  log := List.forall_mem_nil _

theorem sound_final (pda : FindProgramAddress) (uptime : ℕ) (run : List Step) :
    (Runs.final (step pda) (start uptime) run).Sound pda :=
  Runs.final_of_kept run (sound_start pda uptime) fun _ action sound => sound_step sound action

end PumpPools

end AtomicArbitrage.Bot

import AtomicArbitrage.Bot.PumpPrices

/-!
# Addresses of PumpSwap pools

The address of a pool is kept for good.  When is it the one that the service has named?
-/

namespace AtomicArbitrage.Bot

namespace PumpPools

variable {pda : FindProgramAddress} {s : PumpPools} {mint : String}

/-- The pool that the service has named last. -/
def namedPool (s : PumpPools) (mint : String) : Option Pubkey :=
  s.log.findSome? fun event =>
    match event with
    | .named other pool => if other = mint then some pool else none
    | .priced .. | .resolved .. => none

/-- The cache holds, of every mint that the service has named a pool for, the last of them. -/
def Right (s : PumpPools) : Prop :=
  ∀ mint pool, s.namedPool mint = some pool → AssocMap.get s.addresses mint = some pool

/-- Neither the cache of addresses nor what the service has named has changed. -/
structure Same (s t : PumpPools) : Prop where
  addresses : t.addresses = s.addresses
  named : ∀ mint, t.namedPool mint = s.namedPool mint

theorem Same.right_iff {t : PumpPools} (same : Same s t) : t.Right ↔ s.Right := by
  simp only [Right, same.addresses, same.named]

theorem same_wait (s : PumpPools) (mint : String) (stage : PumpStage) :
    Same s (s.wait mint stage) := ⟨rfl, fun _ => rfl⟩

theorem same_priced (s : PumpPools) (mint : String) (time : Instant) (cached : Bool)
    (coin : Option PumpCoin) : Same s (s.record (.priced mint time cached coin)) :=
  ⟨rfl, fun _ => rfl⟩

theorem same_resolved (s : PumpPools) (mint : String) (pool : Option Pubkey) :
    Same s (s.record (.resolved mint pool)) := ⟨rfl, fun _ => rfl⟩

theorem same_cacheMiss (s : PumpPools) (mint : String) (coin : Option PumpCoin)
    (entry : CacheEntry (Option PumpCoin)) : Same s (s.cacheMiss mint coin entry) :=
  ⟨rfl, fun _ => rfl⟩

theorem same_toFallback (s : PumpPools) (mint : String) : Same s (s.toFallback mint) := by
  rw [toFallback]
  split
  · exact same_priced s _ _ _ _
  · exact same_wait s _ _

theorem same_afterCurve (s : PumpPools) (mint : String) (coin : CoinV2Meta) :
    Same s (s.afterCurve mint coin) := by
  rw [afterCurve]
  split
  · exact same_priced s _ _ _ _
  · exact same_toFallback s mint

theorem same_toCurve (s : PumpPools) (mint : String) (coin : CoinV2Meta) :
    Same s (s.toCurve mint coin) := by
  rw [toCurve]
  split
  · exact same_afterCurve s mint coin
  · exact same_wait s _ _

theorem same_askCoin (s : PumpPools) (mint : String) : Same s (s.askCoin mint) := by
  rw [askCoin]
  split
  · split
    · exact same_priced s _ _ _ _
    · exact same_wait s _ _
  · exact same_wait s _ _

theorem same_poolAnswered (s : PumpPools) (mint : String) (replies : PumpReplies)
    (coin : CoinV2Meta) (poolAddr : String) (poolPk : Pubkey) :
    Same s (s.poolAnswered mint replies coin poolAddr poolPk) := by
  rw [poolAnswered]
  split
  · exact same_cacheMiss s _ _ _
  · exact same_toCurve s mint coin

theorem same_curveAnswered (s : PumpPools) (mint : String) (rpc : Rpc) (coin : CoinV2Meta)
    (bcPk : Pubkey) : Same s (s.curveAnswered mint rpc coin bcPk) := by
  rw [curveAnswered]
  split
  · split
    · exact same_cacheMiss s _ _ _
    · exact same_afterCurve s mint coin
  · exact same_afterCurve s mint coin

theorem same_fallbackAnswered (s : PumpPools) (mint : String) (rpc : Rpc) (mintPk : Pubkey) :
    Same s (s.fallbackAnswered mint pda rpc mintPk) := by
  simp only [fallbackAnswered]
  split
  · exact same_cacheMiss s _ _ _
  · exact same_cacheMiss s _ _ _

theorem exists_namedPool {pool : Pubkey} (named : .named mint pool ∈ s.log) :
    ∃ last, s.namedPool mint = some last := by
  cases held : s.namedPool mint with
  | some last => exact ⟨last, rfl⟩
  | none =>
      have missing : (if mint = mint then some pool else none) = none :=
        List.findSome?_eq_none_iff.mp held _ named
      rw [if_pos rfl] at missing
      cases missing

/-- A derived address may only repeat what the service has named. -/
theorem right_keepAddress_iff (right : s.Right) (free : Bool) (pool : Pubkey) :
    (s.keepAddress mint free pool).Right ↔
      (free = true → ∀ named, s.namedPool mint = some named → named = pool) := by
  rw [PumpPools.keepAddress]
  split
  · next free =>
      constructor
      · intro kept _ named last
        have held := kept mint named last
        rw [AssocMap.get_insert, if_pos rfl] at held
        exact (Option.some_inj.mp held).symm
      · intro fits other named last
        rw [AssocMap.get_insert]
        split
        · next same =>
            subst same
            rw [fits free named last]
        · exact right other named last
  · next taken => exact iff_of_true right fun free => absurd free taken

/-- What the service names has to reach the cache. -/
theorem right_named_iff (right : s.Right) (free : Bool) (pool : Pubkey) :
    ((s.keepAddress mint free pool).record (.named mint pool)).Right ↔
      free = true ∨ AssocMap.get s.addresses mint = some pool := by
  have last (t : PumpPools) (other : String) :
      (t.record (.named mint pool)).namedPool other =
        if mint = other then some pool else t.namedPool other := by
    simp only [namedPool, PumpPools.record, List.findSome?_cons]
    by_cases same : mint = other
    · rw [if_pos same, if_pos same]
    · rw [if_neg same, if_neg same]
  have rest (t : PumpPools) (others : ∀ other, other ≠ mint →
      AssocMap.get t.addresses other = AssocMap.get s.addresses other)
      (names : ∀ other, t.namedPool other = s.namedPool other) :
      (t.record (.named mint pool)).Right ↔ AssocMap.get t.addresses mint = some pool := by
    constructor
    · intro kept
      apply kept mint pool
      rw [last, if_pos rfl]
    · intro held other named there
      rw [last] at there
      split at there
      · next same =>
          cases there
          exact same ▸ held
      · next differs =>
          exact (others other fun same => differs same.symm).trans
            (right other named (names other ▸ there))
  rw [PumpPools.keepAddress]
  split
  · next free =>
      refine (rest { s with addresses := AssocMap.insert s.addresses mint pool } ?_
        fun _ => rfl).trans ?_
      · intro other differs
        exact AssocMap.get_insert.trans (if_neg differs)
      · exact iff_of_true (AssocMap.get_insert.trans (if_pos rfl)) (.inl free)
  · next taken =>
      refine (rest s (fun _ _ => rfl) fun _ => rfl).trans ?_
      exact ⟨.inr, fun either => either.resolve_left taken⟩

/-- What a call is told fits: a pool that the service names finds the cache free, or there
already, and a derived pool is no other than the one named last. -/
def Fits (pda : FindProgramAddress) (s : PumpPools) (replies : PumpReplies) (task : PumpTask) :
    Prop :=
  match task.stage with
  | .coin => ∀ coin poolAddr poolPk, fetchCoinV2 replies.resp = some coin →
      namedBy coin = some (poolAddr, poolPk) →
        replies.free = true ∨ AssocMap.get s.addresses task.mint = some poolPk
  | .creator => ∀ pool, derivedPool pda replies.rpc task.mint = some pool →
      replies.free = true → ∀ named, s.namedPool task.mint = some named → named = pool
  | .pool .. | .curve .. | .fallback .. => True

def StepFits (pda : FindProgramAddress) (s : PumpPools) : Step → Prop
  | .told position replies =>
      ∀ task, s.tasks[position]? = some task → s.Fits pda replies task
  | .tick .. | .coinAsked .. | .addressAsked .. => True

theorem right_coinAnswered_iff (right : s.Right) (replies : PumpReplies) :
    (s.coinAnswered mint replies.free replies.resp).Right ↔
      s.Fits pda replies { mint, stage := .coin } := by
  rw [coinAnswered]
  split
  · next missing =>
      refine iff_of_true ((same_toFallback s mint).right_iff.mpr right) ?_
      intro coin poolAddr poolPk answered
      rw [missing] at answered
      cases answered
  · next coin answered =>
      split
      · next missing =>
          refine iff_of_true ((same_toCurve s mint coin).right_iff.mpr right) ?_
          intro other poolAddr poolPk same named
          cases answered.symm.trans same
          rw [missing] at named
          cases named
      · next poolAddr poolPk named =>
          have kept := @right_named_iff s mint right replies.free poolPk
          have fits : (replies.free = true ∨ AssocMap.get s.addresses mint = some poolPk) ↔
              s.Fits pda replies { mint, stage := .coin } := by
            constructor
            · intro either other otherAddr otherPk same there
              cases answered.symm.trans same
              cases named.symm.trans there
              exact either
            · intro fits
              exact fits coin poolAddr poolPk answered named
          split
          · exact (same_wait _ _ _).right_iff.trans (kept.trans fits)
          · exact (same_toCurve _ _ _).right_iff.trans (kept.trans fits)

theorem right_creatorAnswered_iff (right : s.Right) (replies : PumpReplies) :
    (s.creatorAnswered mint pda replies.free replies.rpc).Right ↔
      s.Fits pda replies { mint, stage := .creator } := by
  rw [creatorAnswered]
  split
  · next missing =>
      refine iff_of_true ((same_resolved s mint none).right_iff.mpr right) ?_
      intro pool derived
      rw [missing] at derived
      cases derived
  · next pool derived =>
      rw [(same_resolved _ _ _).right_iff, right_keepAddress_iff right]
      constructor
      · intro fits other same
        cases derived.symm.trans same
        exact fits
      · intro fits
        exact fits pool derived

/-- A look-up changes nothing where the cache is right: a pool whose price is cached has been
named, so its address is there. -/
theorem right_askAddress (sound : s.Sound pda) (right : s.Right)
    (addressesFree coinsFree backfillFree : Bool) :
    (s.askAddress mint addressesFree coinsFree backfillFree).Right := by
  rw [askAddress]
  rcases @getPumpswapPoolAddress_cases pda s mint sound addressesFree coinsFree backfillFree with
    ⟨found, same, -⟩ | ⟨pool, -, missing, named⟩
  · rw [same]
    cases found with
    | none =>
        simp only
        split
        · exact (same_wait s _ _).right_iff.mpr right
        · exact (same_resolved s _ _).right_iff.mpr right
    | some addr => exact (same_resolved s _ _).right_iff.mpr right
  · rcases exists_namedPool named with ⟨last, there⟩
    rw [right mint last there] at missing
    cases missing

theorem right_resume_iff (right : s.Right) (replies : PumpReplies) (task : PumpTask) :
    (s.resume task.mint pda replies task.stage).Right ↔ s.Fits pda replies task := by
  rcases task with ⟨mint, stage⟩
  cases stage with
  | coin => exact right_coinAnswered_iff right replies
  | pool coin poolAddr poolPk =>
      exact iff_of_true ((same_poolAnswered s mint replies coin poolAddr poolPk).right_iff.mpr
        right) trivial
  | curve coin bcPk =>
      exact iff_of_true ((same_curveAnswered s mint replies.rpc coin bcPk).right_iff.mpr right)
        trivial
  | fallback mintPk =>
      exact iff_of_true ((same_fallbackAnswered s mint replies.rpc mintPk).right_iff.mpr right)
        trivial
  | creator => exact right_creatorAnswered_iff right replies

theorem right_step_iff (sound : s.Sound pda) (right : s.Right) (action : Step) :
    (step pda s action).Right ↔ s.StepFits pda action := by
  cases action with
  | tick nanos => exact iff_of_true right trivial
  | coinAsked mint => exact iff_of_true ((same_askCoin s mint).right_iff.mpr right) trivial
  | addressAsked mint addressesFree coinsFree backfillFree =>
      exact iff_of_true (right_askAddress sound right addressesFree coinsFree backfillFree) trivial
  | told position replies =>
      simp only [step]
      split
      · next missing =>
          refine iff_of_true right ?_
          intro task waits
          rw [missing] at waits
          cases waits
      · next task waits =>
          have others : Right { s with tasks := s.tasks.eraseIdx position } := right
          refine (right_resume_iff others replies task).trans ?_
          constructor
          · intro fits other same
            cases waits.symm.trans same
            exact fits
          · intro fits
            exact fits task waits

/-- In every state of a run the cache holds the pool that the service has named last, for every
mint that it has named one of, exactly when every answer of the run fits: no name finds the cache
taken, and no derived address replaces another that was named. -/
theorem addresses_right_iff (pda : FindProgramAddress) (uptime : ℕ) (run : List Step) :
    Runs.Always (step pda) Right (start uptime) run ↔
      Runs.Throughout (step pda) (StepFits pda) (start uptime) run := by
  have empty : (start uptime).Right := by
    intro mint pool named
    cases named
  refine @Runs.always_iff_throughout_of _ _ (step pda) Right (StepFits pda)
    (fun s => s.Sound pda ∧ s.Right) (start uptime) run ⟨sound_start pda uptime, empty⟩ ?_ ?_ ?_
  · exact fun s kept => kept.2
  · intro s action kept fits
    exact ⟨sound_step kept.1 action, (right_step_iff kept.1 kept.2 action).mpr fits⟩
  · intro s action kept misfits
    exact fun right => misfits ((right_step_iff kept.1 kept.2 action).mp right)

/-- The cache can go wrong with every lock free: a call that derives an address, begun before the
service named a pool for the mint, ends after. -/
theorem not_right_of_derived (pda : FindProgramAddress) (uptime : ℕ) {mint poolAddr : String}
    {replies : PumpReplies} {coin : CoinV2Meta} {named pool : Pubkey} (free : replies.free = true)
    (answered : fetchCoinV2 replies.resp = some coin) (graduated : coin.complete = true)
    (isNamed : namedBy coin = some (poolAddr, named))
    (derived : derivedPool pda replies.rpc mint = some pool) (differ : named ≠ pool) :
    ¬(Runs.final (step pda) (start uptime) [.addressAsked mint true true true, .coinAsked mint,
      .told 1 replies, .told 0 replies]).Right := by
  rcases derivedPool_eq_some derived with ⟨creator, mintPk, parsed, -⟩
  have first : step pda (start uptime) (.addressAsked mint true true true) =
      { start uptime with tasks := [⟨mint, .creator⟩] } := by
    have missing : (start uptime).getPumpswapPoolAddress mint true true true =
        (none, start uptime) := rfl
    rw [step, askAddress, missing]
    simp only [parsed, Option.isSome_some, if_true]
    rfl
  have second : step pda { start uptime with tasks := [⟨mint, .creator⟩] } (.coinAsked mint) =
      { start uptime with tasks := [⟨mint, .creator⟩, ⟨mint, .coin⟩] } := rfl
  have third : step pda { start uptime with tasks := [⟨mint, .creator⟩, ⟨mint, .coin⟩] }
      (.told 1 replies) =
        { start uptime with
          addresses := AssocMap.insert .empty mint named
          tasks := [⟨mint, .creator⟩, ⟨mint, .pool coin poolAddr named⟩]
          log := [.named mint named] } := by
    have told : step pda { start uptime with tasks := [⟨mint, .creator⟩, ⟨mint, .coin⟩] }
        (.told 1 replies) =
          coinAnswered { start uptime with tasks := [⟨mint, .creator⟩] } mint replies.free
            replies.resp := rfl
    rw [told, coinAnswered]
    simp only [answered, isNamed, graduated, free, PumpPools.keepAddress, if_true]
    rfl
  rw [Runs.final_cons, first, Runs.final_cons, second, Runs.final_cons, third, Runs.final_cons,
    Runs.final_nil]
  intro right
  have last : AssocMap.get (step pda { start uptime with
      addresses := AssocMap.insert .empty mint named
      tasks := [⟨mint, .creator⟩, ⟨mint, .pool coin poolAddr named⟩]
      log := [.named mint named] } (.told 0 replies)).addresses mint = some pool := by
    simp only [step, List.getElem?_cons_zero, resume, creatorAnswered, derived, free,
      PumpPools.keepAddress, if_true, PumpPools.record]
    rw [AssocMap.get_insert, if_pos rfl]
  have there := right mint named (by
    simp only [step, List.getElem?_cons_zero, resume, creatorAnswered, derived, free,
      PumpPools.keepAddress, if_true, PumpPools.record, namedPool, List.findSome?_cons])
  exact differ (Option.some_inj.mp (there.symm.trans last))

/-- An answer of the service and of the nodes for a coin that has graduated. -/
def sampleReplies : PumpReplies where
  resp := some (.object
    [("bonding_curve", .string ""), ("pump_swap_pool", .string Client.nativeSolMint),
      ("complete", .bool true)])
  cache := .empty
  rpc :=
    { getAccount := fun _ => some ⟨.zero, List.replicate 81 0⟩
      getMultipleAccounts := fun _ => none }
  free := true

theorem not_right_sample :
    ¬(Runs.final (step fun _ _ => .zero) (start 0)
      [.addressAsked Pubkey.zero.toBase58 true true true, .coinAsked Pubkey.zero.toBase58,
        .told 1 sampleReplies, .told 0 sampleReplies]).Right := by
  have parsed : Pubkey.fromStr? Client.nativeSolMint = some (.ofLiteral Client.nativeSolMint) := by
    decide +kernel
  have named : namedBy ⟨"", some Client.nativeSolMint, true⟩ =
      some (Client.nativeSolMint, .ofLiteral Client.nativeSolMint) := by
    simp only [namedBy, Option.bind_eq_bind, Option.bind_some, parsed]
    rfl
  have derived : derivedPool (fun _ _ => .zero) sampleReplies.rpc Pubkey.zero.toBase58 =
      some .zero := by
    simp only [derivedPool, Pubkey.fromStr?_toBase58, Option.bind_eq_bind, Option.bind_some]
    rfl
  exact not_right_of_derived _ 0 rfl rfl rfl named derived (by decide +kernel)

end PumpPools

end AtomicArbitrage.Bot

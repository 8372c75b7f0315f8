import AtomicArbitrage.Agreement.EndToEnd
import AtomicArbitrage.Bot.OnchainBuilders

/-!
# From a builder to the ledger

A builder of the bot returns the bytes of a transaction; the on-chain program accepts or
refuses the instruction in it.  Between pools that belong to their exchanges, the transaction
of a builder lands exactly when neither exchange is Whirlpool and the two swaps leave the
wallet with one lamport more, whatever the exchanges do.
-/

namespace AtomicArbitrage.Agreement

open AtomicArbitrage.Bot Outcome Word64 Program

/-! ## The pools of a trade -/

/-- The pools that a builder has found belong to their exchanges, and those on DLMM trade SOL
against the token, with bin arrays. -/
structure Listed (cluster : Cluster) (o : OnchainTrade) (builder : OnchainBuilder) : Prop where
  pool : ∀ pool, o.pool = some pool → cluster.owner pool = pumpSwapId
  lbPair : ∀ dlmm, o.dlmm = some dlmm → ∀ key, Pubkey.fromStr? dlmm.lbPair = some key →
    cluster.owner key = dlmmId
  cpmm : ∀ state, o.cpmm = some state → ∀ key, Pubkey.fromStr? state.poolPubkey = some key →
    cluster.owner key = cpmmId
  whirlpool : ∀ wp, o.whirlpool = some wp → ∀ key, Pubkey.fromStr? wp.lbPair = some key →
    cluster.owner key = whirlpoolId
  solMeme : ∀ dlmm, o.dlmm = some dlmm → SolMemePool dlmm.toDlmmPoolReserves o.memeMint
  nonempty : ∀ dlmm, o.dlmm = some dlmm → 1 ≤ dlmm.binArrayAddresses.length
  few : builder = .pumpToDlmm ∨ builder = .dlmmToPump →
    ∀ dlmm, o.dlmm = some dlmm → dlmm.binArrayAddresses.length ≤ 5

/-- The trade that a builder stands for: of the direct swaps where the route is a legacy one,
otherwise of the swaps that the program makes of the client's plan. -/
def Trades (derivation : Client.Derivation) (cluster : Cluster) (o : OnchainTrade)
    (leg : BuyLeg) (ix : Instruction) (trade : Trade) : OnchainBuilder → Prop
  | .pumpToDlmm => ∃ dlmm poolMeta pool, o.dlmm = some dlmm ∧ o.pool = some pool ∧
      trade = pumpToDlmmTrade derivation.find
        (o.legacyArgs derivation.find dlmm poolMeta pool leg.minMemeOut leg)
  | .dlmmToPump => ∃ dlmm poolMeta pool, o.dlmm = some dlmm ∧ o.pool = some pool ∧
      trade = dlmmToPumpTrade derivation.find
        (o.legacyArgs derivation.find dlmm poolMeta pool 1 leg)
  | builder => ∃ buySolIsX buy sell,
      o.resolve derivation.find builder.exchanges.1 = some buy ∧
      o.resolve derivation.find builder.exchanges.2 = some sell ∧
      trade = genericTrade derivation (o.genericArgs derivation.find buySolIsX leg) buy sell
        (load cluster.owner ix.accounts)

/-- Neither exchange of a builder is Whirlpool. -/
def NoWhirlpool (builder : OnchainBuilder) : Prop :=
  builder.exchanges.1 ≠ .whirlpool ∧ builder.exchanges.2 ≠ .whirlpool

instance : DecidablePred NoWhirlpool := fun builder =>
  inferInstanceAs (Decidable (builder.exchanges.1 ≠ .whirlpool ∧ _ ≠ _))

section

variable {derivation : Client.Derivation} {cluster : Cluster} {o : OnchainTrade}
  {builder : OnchainBuilder} {wrap : Wrap} {leg : BuyLeg} {txBytes : List UInt8}

/-- A resolved section is of its exchange, comes from the resolvers and belongs to it. -/
theorem resolve_spec (listed : Listed cluster o builder) {kind : DexKind}
    {data : Client.Section} (resolved : o.resolve derivation.find kind = some data) :
    data.kind = kind ∧ data.Constructible derivation.find ∧ Owned cluster data := by
  cases kind with
  | pumpSwap =>
      simp only [OnchainTrade.resolve, Option.bind_eq_bind, Option.bind_eq_some_iff,
        Option.pure_def, Option.some.injEq] at resolved
      obtain ⟨pool, found, ⟨poolMeta, reserves⟩, -, rfl⟩ := resolved
      exact ⟨rfl, ⟨poolMeta, pool, rfl⟩, listed.pool pool found⟩
  | dlmm =>
      simp only [OnchainTrade.resolve, Option.bind_eq_bind, Option.bind_eq_some_iff,
        Option.pure_def, Option.some.injEq, toOption_eq_some] at resolved
      obtain ⟨dlmm, found, d, resolves, rfl⟩ := resolved
      have nonempty := listed.nonempty dlmm found
      refine ⟨rfl, ⟨dlmm.toDlmmPoolReserves, o.memeTokenProgram, ?_, resolves⟩, ?_⟩
      · exact List.ne_nil_of_length_pos nonempty
      · simp only [Client.dlmmSectionData, bind_eq_ok, Client.parsePubkey_eq_ok, pure_eq_ok]
          at resolves
        obtain ⟨lbPair, parsed, _, -, _, -, _, -, _, -, _, -, rfl⟩ := resolves
        exact listed.lbPair dlmm found lbPair parsed
  | cpmm =>
      simp only [OnchainTrade.resolve, cpmmSectionData, Option.bind_eq_bind,
        Option.bind_eq_some_iff, Option.pure_def, Option.some.injEq, toOption_eq_some, bind_eq_ok,
        Client.parsePubkey_eq_ok, pure_eq_ok] at resolved
      obtain ⟨state, found, _, ⟨pool, parsed, rfl⟩, rfl⟩ := resolved
      exact ⟨rfl, trivial, listed.cpmm state found pool parsed⟩
  | whirlpool =>
      simp only [OnchainTrade.resolve, whirlpoolSectionData, Option.bind_eq_bind,
        Option.bind_eq_some_iff, Option.pure_def, Option.some.injEq, toOption_eq_some, bind_eq_ok,
        Client.parsePubkey_eq_ok, require_eq_ok, orFail_eq_ok, pure_eq_ok] at resolved
      obtain ⟨wp, found, _, ⟨pool, parsed, _, -, _, -, _, -, _, -, rfl⟩, rfl⟩ := resolved
      exact ⟨rfl, trivial, listed.whirlpool wp found pool parsed⟩

/-- The transaction of a generic builder carries its trade. -/
theorem route_carried (listed : Listed cluster o builder) {buySolIsX : Bool}
    {buyKind sellKind : DexKind} (distinct : buyKind ≠ sellKind)
    (invests : leg.investmentLamports ≠ 0)
    (assembled : o.route derivation.find wrap buySolIsX buyKind sellKind leg = some txBytes) :
    ∃ ix buy sell, wrap ix = some txBytes ∧ o.resolve derivation.find buyKind = some buy ∧
      o.resolve derivation.find sellKind = some sell ∧
      (genericTrade derivation (o.genericArgs derivation.find buySolIsX leg) buy sell
        (load cluster.owner ix.accounts)).Carried derivation.find cluster.owner ix
          (buyKind ≠ .whirlpool ∧ sellKind ≠ .whirlpool) := by
  simp only [OnchainTrade.route, Option.bind_eq_bind, Option.bind_eq_some_iff, toOption_eq_some]
    at assembled
  obtain ⟨buy, buyResolved, sell, sellResolved, ix, built, wrapped⟩ := assembled
  rcases resolve_spec listed buyResolved with ⟨rfl, buyData, buyOwned⟩
  rcases resolve_spec listed sellResolved with ⟨rfl, sellData, sellOwned⟩
  have amounts : leg.investmentLamports ≠ 0 ∧ (1 : UInt64) ≠ 0 := ⟨invests, by decide⟩
  have carried := genericRoute_carried buyData sellData buyOwned sellOwned built
  exact ⟨ix, buy, sell, wrapped, buyResolved, sellResolved,
    carried.congr ⟨fun condition => condition.2.2, fun noWhirlpool =>
      ⟨amounts, distinct, noWhirlpool⟩⟩⟩

/-- The transaction of any builder carries its trade. -/
theorem assembles_carried (listed : Listed cluster o builder)
    (invests : leg.investmentLamports ≠ 0)
    (assembled : builder.Assembles derivation.find wrap o leg txBytes) :
    ∃ ix trade, wrap ix = some txBytes ∧ Trades derivation cluster o leg ix trade builder ∧
      trade.Carried derivation.find cluster.owner ix (NoWhirlpool builder) := by
  have amounts : leg.investmentLamports ≠ 0 ∧ (1 : UInt64) ≠ 0 := ⟨invests, by decide⟩
  cases builder with
  | pumpToDlmm =>
      simp only [OnchainBuilder.Assembles, OnchainTrade.pumpToDlmmRoute, Option.bind_eq_bind,
        Option.bind_eq_some_iff, toOption_eq_some] at assembled
      obtain ⟨pool, poolFound, dlmm, found, ⟨poolMeta, reserves⟩, -, ⟨ix, height⟩, built,
        wrapped⟩ := assembled
      have carried := pumpToDlmm_carried cluster.owner (listed.solMeme dlmm found)
        (listed.nonempty dlmm found) (listed.few (.inl rfl) dlmm found) built
      exact ⟨ix, _, wrapped, ⟨dlmm, poolMeta, pool, found, poolFound, rfl⟩,
        carried.congr (iff_of_true amounts (by decide))⟩
  | dlmmToPump =>
      simp only [OnchainBuilder.Assembles, OnchainTrade.dlmmToPumpRoute, Option.bind_eq_bind,
        Option.bind_eq_some_iff, toOption_eq_some] at assembled
      obtain ⟨pool, poolFound, dlmm, found, ⟨poolMeta, reserves⟩, -, ⟨ix, height⟩, built,
        wrapped⟩ := assembled
      have carried := dlmmToPump_carried cluster.owner (listed.solMeme dlmm found)
        (listed.nonempty dlmm found) (listed.few (.inr rfl) dlmm found) built
      exact ⟨ix, _, wrapped, ⟨dlmm, poolMeta, pool, found, poolFound, rfl⟩,
        carried.congr (iff_of_true amounts (by decide))⟩
  | _ =>
      rcases assembled with ⟨buySolIsX, assembled⟩
      obtain ⟨ix, buy, sell, wrapped, buyResolved, sellResolved, carried⟩ :=
        route_carried listed (by decide) invests assembled
      exact ⟨ix, _, wrapped, ⟨buySolIsX, buy, sell, buyResolved, sellResolved, rfl⟩, carried⟩

/-- What the trade of a builder is for. -/
theorem Trades.purpose {ix : Instruction} {trade : Trade}
    (trades : Trades derivation cluster o leg ix trade builder) :
    trade.wallet = o.walletPubkey ∧ trade.amountIn = leg.investmentLamports ∧
      trade.minProfit = 1 := by
  cases builder with
  | pumpToDlmm =>
      obtain ⟨dlmm, poolMeta, pool, -, -, rfl⟩ := trades
      exact ⟨rfl, rfl, rfl⟩
  | dlmmToPump =>
      obtain ⟨dlmm, poolMeta, pool, -, -, rfl⟩ := trades
      exact ⟨rfl, rfl, rfl⟩
  | _ =>
      obtain ⟨buySolIsX, buy, sell, -, -, rfl⟩ := trades
      exact ⟨rfl, rfl, rfl⟩

/-- A transaction of any of the twelve builders lands exactly when neither exchange is
Whirlpool and the two swaps, for the amount that was invested, leave the wallet with one
lamport more, whatever the exchanges and the ledger are. -/
theorem onchainTx_lands_iff {tx : BuiltTx} (listed : Listed cluster o builder)
    (threshold : 0 < o.config.minProfitThresholdSol) (investment : 0 ≤ o.opp.investmentSol)
    (built : builder.build derivation.find wrap o = .ok tx) :
    ∃ leg ix trade, wrap ix = some tx.txBytes ∧
      Trades derivation cluster o leg ix trade builder ∧
      (trade.wallet = o.walletPubkey ∧ trade.amountIn = leg.investmentLamports ∧
        trade.minProfit = 1) ∧
      ∀ first second before after,
        Lands derivation.find cluster.owner ix first second before after ↔
          NoWhirlpool builder ∧ ∃ between received,
            trade.Settles (load cluster.owner ix.accounts) first second before between after
              received := by
  rcases builder.build_spec built with ⟨leg, priced, assembled⟩
  have invests := (priced.positive threshold investment).1
  rcases assembles_carried listed invests assembled with ⟨ix, trade, wrapped, trades, carried⟩
  exact ⟨leg, ix, trade, wrapped, trades, trades.purpose, fun _ _ _ _ => carried.lands_iff⟩

end

/-- The sample pools belong to their exchanges. -/
theorem sampleOnchainTrade_listed :
    Listed sampleCluster sampleOnchainTrade .pumpToCpmm where
  pool _ found := Option.some.inj found ▸ by decide +kernel
  lbPair := nofun
  cpmm _ found key parsed := by
    obtain rfl := Option.some.inj found
    have same : Pubkey.fromStr? "1111111111111111111111111111111s" = some sampleCpmmPool := by
      decide +kernel
    obtain rfl := Option.some.inj (same.symm.trans parsed)
    decide +kernel
  whirlpool := nofun
  solMeme := nofun
  nonempty := nofun
  few := nofun

/-- The sample trade between PumpSwap and CPMM lands only at a gain. -/
theorem onchainTx_lands_sample :
    ∃ tx ix, OnchainBuilder.pumpToCpmm.build sampleDerivation.find (fun ix => some ix.data)
        sampleOnchainTrade = .ok tx ∧ (ix : Instruction).data = tx.txBytes ∧
      ∀ first second before after,
        Lands sampleDerivation.find sampleCluster.owner ix first second before after →
        ∃ solAta, solBalance before (.ofNat 1) solAta + 1 ≤ solBalance after (.ofNat 1) solAta := by
  obtain ⟨tx, built⟩ := exists_of_isOk
    (show (OnchainBuilder.pumpToCpmm.build sampleDerivation.find (fun ix => some ix.data)
      sampleOnchainTrade).isOk = true by decide +kernel)
  obtain ⟨leg, ix, trade, wrapped, -, ⟨wallet, -, minProfit⟩, lands⟩ :=
    onchainTx_lands_iff sampleOnchainTrade_listed (by decide +kernel) (by decide +kernel) built
  refine ⟨tx, ix, built, Option.some.inj wrapped, ?_⟩
  intro first second before after landed
  rcases (lands first second before after).mp landed with ⟨-, between, received, settles⟩
  have profit := settles.profit
  rw [wallet, minProfit] at profit
  exact ⟨trade.solAta, profit⟩

end AtomicArbitrage.Agreement

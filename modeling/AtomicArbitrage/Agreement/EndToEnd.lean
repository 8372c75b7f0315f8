import AtomicArbitrage.Agreement.LegacyRefinement
import AtomicArbitrage.Agreement.Wire

/-!
# Landing

From the arguments of the client to the balances of the wallet.  The transaction of a route
lands exactly when its amounts are positive, its exchanges are ones the program can trade on,
and the two swaps, one after the other, leave the wallet with the profit that the client
demanded.  For the legacy routes the swaps are those of the direct builders.
-/

namespace AtomicArbitrage.Agreement

open Outcome Word64 Program

/-! ## Trades -/

/-- A purchase and a sale, each as the instructions that swap an amount. -/
structure Trade where
  wallet : Pubkey
  solAta : Pubkey
  memeAta : Pubkey
  amountIn : UInt64
  minProfit : UInt64
  buys : UInt64 → Instruction → Prop
  sells : UInt64 → Instruction → Prop

/-- A trade settles: the purchase delivers some tokens, the sale takes just these, and the SOL
of the wallet, native and wrapped, has grown by the profit that was demanded. -/
structure Trade.Settles (trade : Trade) (accounts : List AccountInfo) (first second : CpiEffect)
    (before between after : Ledger) (received : UInt64) : Prop where
  bought : ∃ cpi, trade.buys trade.amountIn cpi ∧ first cpi accounts before = .ok between
  delivered : (tokenAmount between trade.memeAta).toNat =
    (tokenAmount before trade.memeAta).toNat + received.toNat
  some : received ≠ 0
  sold : ∃ cpi, trade.sells received cpi ∧ second cpi accounts between = .ok after
  profit : solBalance before trade.wallet trade.solAta + trade.minProfit.toNat ≤
    solBalance after trade.wallet trade.solAta
  bounded : solBalance after trade.wallet trade.solAta < 2 ^ 64
  restored : tokenAmount after trade.memeAta = tokenAmount before trade.memeAta
  solAccounts : 72 ≤ (before trade.solAta).data.length ∧ 72 ≤ (after trade.solAta).data.length
  memeAccounts : 72 ≤ (before trade.memeAta).data.length ∧
    72 ≤ (between trade.memeAta).data.length ∧ 72 ≤ (after trade.memeAta).data.length

/-- The instruction lands: the program accepts it on a ledger, and leaves another behind. -/
def Lands (pda : FindProgramAddress) (owner : Pubkey → Pubkey) (ix : Instruction)
    (first second : CpiEffect) (before after : Ledger) : Prop :=
  ∃ receipt, processInstruction pda first second (load owner ix.accounts) ix.data before =
    .ok receipt ∧ receipt.second.after = after

/-- An instruction carries a trade: the wallet and its token accounts lead the accounts, and
the program prepares the swaps of the trade, provided that a condition on its arguments
holds. -/
structure Trade.Carried (trade : Trade) (pda : FindProgramAddress) (owner : Pubkey → Pubkey)
    (ix : Instruction) (condition : Prop) : Prop where
  wallet : ix.accounts[0]? = some (.new trade.wallet true)
  solAta : ix.accounts[1]? = some (.new trade.solAta false)
  memeAta : ix.accounts[2]? = some (.new trade.memeAta false)
  required : ∀ prepared, prepare pda (load owner ix.accounts) ix.data = .ok prepared →
    condition
  prepared : condition → ∃ prepared,
    prepare pda (load owner ix.accounts) ix.data = .ok prepared ∧
      prepared.amountIn = trade.amountIn ∧ prepared.minProfit = trade.minProfit ∧
      (∀ amount cpi, prepared.first.build amount = .ok cpi ↔ trade.buys amount cpi) ∧
      ∀ amount cpi, prepared.second.build amount = .ok cpi ↔ trade.sells amount cpi

section

variable {pda : FindProgramAddress} {owner : Pubkey → Pubkey} {first second : CpiEffect}
  {before after : Ledger} {trade : Trade} {ix : Instruction} {condition : Prop}

namespace Trade.Carried

variable (carried : trade.Carried pda owner ix condition)
include carried

/-- The condition may be stated in another way. -/
theorem congr {other : Prop} (same : condition ↔ other) : trade.Carried pda owner ix other where
  wallet := carried.wallet
  solAta := carried.solAta
  memeAta := carried.memeAta
  required prepared accepted := same.mp (carried.required prepared accepted)
  prepared holds := carried.prepared (same.mpr holds)

/-- The accounts that a settlement measures are those of the trade. -/
theorem measured {amountIn minProfit received : UInt64} {firstLeg secondLeg : Leg}
    {receipt : Receipt} {user userSolAta userMemeAta : AccountInfo}
    (settled : Settled (load owner ix.accounts) amountIn minProfit firstLeg secondLeg first
      second before receipt user userSolAta userMemeAta received) :
    user.key = trade.wallet ∧ userSolAta.key = trade.solAta ∧
      userMemeAta.key = trade.memeAta := by
  have wallet := settled.userAt
  have solAta := settled.userSolAtaAt
  have memeAta := settled.userMemeAtaAt
  rw [userIdx, load_getElem?, carried.wallet] at wallet
  rw [userSolAtaIdx, load_getElem?, carried.solAta] at solAta
  rw [userMemeAtaIdx, load_getElem?, carried.memeAta] at memeAta
  cases wallet
  cases solAta
  cases memeAta
  exact ⟨rfl, rfl, rfl⟩

/-- What the program settles is the trade. -/
theorem settles {prepared : Prepared} {receipt : Receipt}
    (amountIn : prepared.amountIn = trade.amountIn)
    (minProfit : prepared.minProfit = trade.minProfit)
    (buys : ∀ amount cpi, prepared.first.build amount = .ok cpi ↔ trade.buys amount cpi)
    (sells : ∀ amount cpi, prepared.second.build amount = .ok cpi ↔ trade.sells amount cpi)
    (accepted : Program.settle (load owner ix.accounts) prepared.amountIn prepared.minProfit
      prepared.first prepared.second first second before = .ok receipt) :
    ∃ between received, trade.Settles (load owner ix.accounts) first second before between
      receipt.second.after received := by
  rcases settled_of_settle accepted with ⟨user, userSolAta, userMemeAta, received, settled⟩
  rcases carried.measured settled with ⟨wallet, solAta, memeAta⟩
  have bought := (buys _ _).mp settled.firstBuilt
  have profit := settled.profit
  have bounded := settled.bounded
  have restored := settled.restored
  have delivered := settled.bought
  rw [amountIn] at bought
  rw [wallet, solAta, minProfit] at profit
  rw [wallet, solAta] at bounded
  rw [memeAta] at restored delivered
  exact ⟨receipt.first.after, received,
    { bought := ⟨_, bought, settled.firstInvoked⟩
      delivered
      some := settled.receivedPos
      sold := ⟨_, (sells _ _).mp settled.secondBuilt, settled.secondInvoked⟩
      profit
      bounded
      restored
      solAccounts := solAta ▸ ⟨settled.solReadable, settled.solReadableAfter⟩
      memeAccounts := memeAta ▸
        ⟨settled.memeReadable, settled.memeReadableAfterBuy, settled.memeReadableAfter⟩ }⟩

/-- A trade that settles is one that the program settles. -/
theorem settle {prepared : Prepared} {between : Ledger} {received : UInt64}
    (amountIn : prepared.amountIn = trade.amountIn)
    (minProfit : prepared.minProfit = trade.minProfit)
    (buys : ∀ amount cpi, prepared.first.build amount = .ok cpi ↔ trade.buys amount cpi)
    (sells : ∀ amount cpi, prepared.second.build amount = .ok cpi ↔ trade.sells amount cpi)
    (settles : trade.Settles (load owner ix.accounts) first second before between after received) :
    ∃ receipt, Program.settle (load owner ix.accounts) prepared.amountIn prepared.minProfit
      prepared.first prepared.second first second before = .ok receipt ∧
        receipt.second.after = after := by
  rcases settles.bought with ⟨buy, bought, delivered⟩
  rcases settles.sold with ⟨sell, sold, paid⟩
  have settled : Settled (load owner ix.accounts) prepared.amountIn prepared.minProfit
      prepared.first prepared.second first second before
      { first := { instruction := buy, before := before, after := between }
        second := { instruction := sell, before := between, after := after } }
      (view owner (.new trade.wallet true)) (view owner (.new trade.solAta false))
      (view owner (.new trade.memeAta false)) received :=
    { userAt := by rw [userIdx, load_getElem?, carried.wallet, Option.map_some]
      userSolAtaAt := by rw [userSolAtaIdx, load_getElem?, carried.solAta, Option.map_some]
      userMemeAtaAt := by rw [userMemeAtaIdx, load_getElem?, carried.memeAta, Option.map_some]
      solReadable := settles.solAccounts.1
      memeReadable := settles.memeAccounts.1
      firstBuilt := (buys _ _).mpr (amountIn ▸ bought)
      firstBefore := rfl
      firstInvoked := delivered
      memeReadableAfterBuy := settles.memeAccounts.2.1
      bought := settles.delivered
      receivedPos := settles.some
      secondBuilt := (sells _ _).mpr sold
      secondBefore := rfl
      secondInvoked := paid
      solReadableAfter := settles.solAccounts.2
      profit := minProfit ▸ settles.profit
      bounded := settles.bounded
      memeReadableAfter := settles.memeAccounts.2.2
      restored := settles.restored }
  exact ⟨_, settle_of_settled settled, rfl⟩

/-- An instruction that carries a trade lands exactly when the condition holds and the trade
settles. -/
theorem lands_iff :
    Lands pda owner ix first second before after ↔
      condition ∧ ∃ between received,
        trade.Settles (load owner ix.accounts) first second before between after received := by
  constructor
  · rintro ⟨receipt, accepted, rfl⟩
    rw [processInstruction_eq] at accepted
    rcases bind_eq_ok.mp accepted with ⟨prepared, planned, settled⟩
    have holds := carried.required prepared planned
    rcases carried.prepared holds with ⟨other, planned', amountIn, minProfit, buys, sells⟩
    obtain rfl : prepared = other := Except.ok.inj (planned.symm.trans planned')
    exact ⟨holds, carried.settles amountIn minProfit buys sells settled⟩
  · rintro ⟨holds, between, received, settles⟩
    rcases carried.prepared holds with ⟨prepared, planned, amountIn, minProfit, buys, sells⟩
    rcases carried.settle amountIn minProfit buys sells settles with ⟨receipt, settled, result⟩
    refine ⟨receipt, ?_, result⟩
    rw [processInstruction_eq, planned, ok_bind]
    exact settled

end Trade.Carried

end

/-! ## The legacy routes -/

/-- The direct purchase on PumpSwap and the direct sale on DLMM. -/
def pumpToDlmmTrade (pda : FindProgramAddress) (args : Client.LegacyArgs) : Trade where
  wallet := args.walletPubkey
  solAta := args.userSolAta
  memeAta := args.userMemeAta
  amountIn := args.investmentLamports
  minProfit := args.minProfitLamports
  buys amount cpi := args.directBuy pda amount = cpi
  sells amount cpi := args.directSwap2 pda args.userMemeAta args.userSolAta amount = .ok cpi

/-- The direct purchase on DLMM and the direct sale on PumpSwap. -/
def dlmmToPumpTrade (pda : FindProgramAddress) (args : Client.LegacyArgs) : Trade where
  wallet := args.walletPubkey
  solAta := args.userSolAta
  memeAta := args.userMemeAta
  amountIn := args.investmentLamports
  minProfit := args.minProfitLamports
  buys amount cpi := args.directSwap2 pda args.userSolAta args.userMemeAta amount = .ok cpi
  sells amount cpi := args.directSell pda amount = cpi

section

variable {derivation : Client.Derivation} {args : Client.LegacyArgs}
  {ix : Instruction} {height : UInt64}

/-- A handler that refines the swaps of a trade requires positive amounts. -/
theorem amounts_of_checked {route : LegacyData} {checked : Exec LegacyPlan}
    {firstLeg secondLeg : LegacyPlan → Leg} {buy sell : UInt64 → Client.ClientResult Instruction}
    {plan : LegacyPlan} (refines : Refines route ix checked firstLeg secondLeg buy sell)
    (passed : checked = .ok plan) : route.amountIn ≠ 0 ∧ route.minProfitLamports ≠ 0 := by
  rw [← not_or]
  intro zero
  rw [refines.rejected zero] at passed
  cases passed

/-- The instruction of the PumpSwap to DLMM builder carries its trade. -/
theorem pumpToDlmm_carried (owner : Pubkey → Pubkey) (pool : SolMemePool args.dlmm args.memeMint)
    (nonempty : 1 ≤ args.dlmm.binArrayAddresses.length)
    (few : args.dlmm.binArrayAddresses.length ≤ 5)
    (built : Client.buildRoutePumpToDlmm derivation.find args = .ok (ix, height)) :
    (pumpToDlmmTrade derivation.find args).Carried derivation.find owner ix
      (args.investmentLamports ≠ 0 ∧ args.minProfitLamports ≠ 0) := by
  have refines := routePumpToDlmm_refines owner pool nonempty few built
  rcases buildRoutePumpToDlmm_eq_ok built with ⟨parsed, -, accounts, data⟩
  rcases shared_lead accounts with ⟨wallet, solAta, memeAta⟩
  have led : ix.data.take 8 = routePumpToDlmmDisc := by
    rw [data]
    exact wire_disc rfl
  exact
    { wallet
      solAta
      memeAta
      required := fun prepared accepted => by
        obtain ⟨-, plan, passed, -⟩ | ⟨other, -⟩ | ⟨other, -⟩ := prepare_cases accepted
        · exact amounts_of_checked refines passed
        · exact absurd (led.symm.trans other) (by decide)
        · exact absurd (led.symm.trans other) (by decide)
      prepared := fun positive => by
        rcases refines.accepted positive.1 positive.2 with ⟨plan, passed, route_eq⟩
        refine ⟨_, prepare_pumpToDlmm (by rw [refines.width]; decide) led passed, ?_, ?_,
          fun amount cpi => ?_, fun amount => eq_ok_iff_of_common (refines.second plan passed amount)⟩
        · exact congrArg LegacyData.amountIn route_eq
        · exact congrArg LegacyData.minProfitLamports route_eq
        · rw [eq_ok_iff_of_common (refines.first plan passed amount), Except.ok.injEq]
          rfl }

/-- The instruction of the DLMM to PumpSwap builder carries its trade. -/
theorem dlmmToPump_carried (owner : Pubkey → Pubkey) (pool : SolMemePool args.dlmm args.memeMint)
    (nonempty : 1 ≤ args.dlmm.binArrayAddresses.length)
    (few : args.dlmm.binArrayAddresses.length ≤ 5)
    (built : Client.buildRouteDlmmToPump derivation.find args = .ok (ix, height)) :
    (dlmmToPumpTrade derivation.find args).Carried derivation.find owner ix
      (args.investmentLamports ≠ 0 ∧ args.minProfitLamports ≠ 0) := by
  have refines := routeDlmmToPump_refines owner pool nonempty few built
  rcases buildRouteDlmmToPump_eq_ok built with ⟨parsed, -, accounts, data⟩
  rcases shared_lead accounts with ⟨wallet, solAta, memeAta⟩
  have led : ix.data.take 8 = routeDlmmToPumpDisc := by
    rw [data]
    exact wire_disc rfl
  exact
    { wallet
      solAta
      memeAta
      required := fun prepared accepted => by
        obtain ⟨other, -⟩ | ⟨-, plan, passed, -⟩ | ⟨other, -⟩ := prepare_cases accepted
        · exact absurd (led.symm.trans other) (by decide)
        · exact amounts_of_checked refines passed
        · exact absurd (led.symm.trans other) (by decide)
      prepared := fun positive => by
        rcases refines.accepted positive.1 positive.2 with ⟨plan, passed, route_eq⟩
        refine ⟨_, prepare_dlmmToPump (by rw [refines.width]; decide) led passed, ?_, ?_,
          fun amount => eq_ok_iff_of_common (refines.first plan passed amount), fun amount cpi => ?_⟩
        · exact congrArg LegacyData.amountIn route_eq
        · exact congrArg LegacyData.minProfitLamports route_eq
        · rw [eq_ok_iff_of_common (refines.second plan passed amount), Except.ok.injEq]
          rfl }

/-- A legacy route lands exactly when both amounts are positive and the direct swaps, the
second for what the first delivered, leave the wallet with the demanded profit: for every
pool of SOL and the meme token with one to five bin arrays, and whatever the exchanges do. -/
theorem legacyRoutes_land_iff (owner : Pubkey → Pubkey) (first second : CpiEffect)
    (before after : Ledger) (pool : SolMemePool args.dlmm args.memeMint)
    (nonempty : 1 ≤ args.dlmm.binArrayAddresses.length)
    (few : args.dlmm.binArrayAddresses.length ≤ 5) :
    (Client.buildRoutePumpToDlmm derivation.find args = .ok (ix, height) →
      (Lands derivation.find owner ix first second before after ↔
        (args.investmentLamports ≠ 0 ∧ args.minProfitLamports ≠ 0) ∧ ∃ between received,
          (pumpToDlmmTrade derivation.find args).Settles (load owner ix.accounts) first second
            before between after received)) ∧
    (Client.buildRouteDlmmToPump derivation.find args = .ok (ix, height) →
      (Lands derivation.find owner ix first second before after ↔
        (args.investmentLamports ≠ 0 ∧ args.minProfitLamports ≠ 0) ∧ ∃ between received,
          (dlmmToPumpTrade derivation.find args).Settles (load owner ix.accounts) first second
            before between after received)) :=
  ⟨fun built => (pumpToDlmm_carried owner pool nonempty few built).lands_iff,
    fun built => (dlmmToPump_carried owner pool nonempty few built).lands_iff⟩

end

/-- The sample ledgers settle any trade of the sample wallet that swaps 1000 lamports for a
profit of 500, with 100 tokens in between. -/
theorem sampleTrade_settles {trade : Trade} (accounts : List AccountInfo)
    (wallet : trade.wallet = sampleUser) (solAta : trade.solAta = sampleSolAta)
    (memeAta : trade.memeAta = sampleMemeAta) (amountIn : trade.amountIn = 1000)
    (minProfit : trade.minProfit = 500) (bought : ∃ cpi, trade.buys 1000 cpi)
    (sold : ∃ cpi, trade.sells 100 cpi) :
    trade.Settles accounts (fun _ _ _ => .ok sampleBetween) (fun _ _ _ => .ok sampleAfter)
      sampleBefore sampleBetween sampleAfter 100 := by
  constructor
  case bought => exact amountIn ▸ bought.imp fun _ buys => ⟨buys, rfl⟩
  case delivered =>
    rw [memeAta]
    decide +kernel
  case some => decide
  case sold => exact sold.imp fun _ sells => ⟨sells, rfl⟩
  case profit =>
    rw [wallet, solAta, minProfit]
    decide +kernel
  case bounded =>
    rw [wallet, solAta]
    decide +kernel
  case restored =>
    rw [memeAta]
    decide +kernel
  case solAccounts =>
    rw [solAta]
    decide +kernel
  case memeAccounts =>
    rw [memeAta]
    decide +kernel

/-- On a sample pool a purchase of 100 tokens and a sale for 1600 lamports lands. -/
theorem legacyRoutes_land_sample :
    ∃ ix height,
      Client.buildRoutePumpToDlmm sampleDerivation.find sampleLegacyArgs = .ok (ix, height) ∧
      Lands sampleDerivation.find id ix (fun _ _ _ => .ok sampleBetween)
        (fun _ _ _ => .ok sampleAfter) sampleBefore sampleAfter := by
  obtain ⟨⟨ix, height⟩, built⟩ := exists_of_isOk
    (show (Client.buildRoutePumpToDlmm sampleDerivation.find sampleLegacyArgs).isOk = true by
      decide +kernel)
  obtain ⟨sell, sold⟩ := exists_of_isOk
    (show (sampleLegacyArgs.directSwap2 sampleDerivation.find sampleMemeAta sampleSolAta
      100).isOk = true by decide +kernel)
  have pool : SolMemePool sampleLegacyArgs.dlmm sampleLegacyArgs.memeMint :=
    .inl ⟨rfl, by decide +kernel, by decide +kernel⟩
  have lands := (legacyRoutes_land_iff id (fun _ _ _ => .ok sampleBetween)
    (fun _ _ _ => .ok sampleAfter) sampleBefore sampleAfter pool (by decide) (by decide)).1 built
  exact ⟨ix, height, built, lands.mpr ⟨by decide, sampleBetween, 100,
    sampleTrade_settles _ rfl rfl rfl rfl rfl ⟨_, rfl⟩ ⟨sell, sold⟩⟩⟩

/-! ## The generic route -/

/-- The swaps that the program makes of the client's plan. -/
def genericTrade (derivation : Client.Derivation) (args : Client.GenericArgs)
    (buy sell : Client.Section) (accounts : List AccountInfo) : Trade where
  wallet := args.walletPubkey
  solAta := args.userSolAta
  memeAta := args.userMemeAta
  amountIn := args.investmentLamports
  minProfit := args.minProfitLamports
  buys amount cpi := (Orchestrate.buyLeg accounts
    (clientPlan derivation args buy sell)).build amount = .ok cpi
  sells amount cpi := (Orchestrate.sellLeg accounts
    (clientPlan derivation args buy sell)).build amount = .ok cpi

section

variable {derivation : Client.Derivation} {cluster : Cluster} {args : Client.GenericArgs}
  {buy sell : Client.Section} {ix : Instruction}

/-- The instruction of the generic builder carries its trade, between different exchanges
other than Whirlpool. -/
theorem genericRoute_carried (buyData : buy.Constructible derivation.find)
    (sellData : sell.Constructible derivation.find) (buyOwned : Owned cluster buy)
    (sellOwned : Owned cluster sell)
    (built : Client.buildRoute derivation.find args buy sell = .ok ix) :
    (genericTrade derivation args buy sell (load cluster.owner ix.accounts)).Carried
      derivation.find cluster.owner ix
      ((args.investmentLamports ≠ 0 ∧ args.minProfitLamports ≠ 0) ∧ buy.kind ≠ sell.kind ∧
        buy.kind ≠ .whirlpool ∧ sell.kind ≠ .whirlpool) := by
  have data := instruction_data built
  have led : ix.data.take 8 = routeDisc := by
    rw [data]
    exact wire_disc rfl
  have long : 8 ≤ ix.data.length := by
    rw [data, Client.genericIxData, List.length_append]
    exact Nat.le_add_right 8 _
  have lead : ix.accounts[0]? = some (.new args.walletPubkey true) ∧
      ix.accounts[1]? = some (.new args.userSolAta false) ∧
      ix.accounts[2]? = some (.new args.userMemeAta false) := by
    rcases Client.buildRoute_eq_ok.mp built with ⟨_, _, rfl⟩
    exact ⟨rfl, rfl, rfl⟩
  exact
    { wallet := lead.1
      solAta := lead.2.1
      memeAta := lead.2.2
      required := fun prepared accepted => by
        obtain ⟨other, -⟩ | ⟨other, -⟩ | ⟨-, plan, checked, -⟩ := prepare_cases accepted
        · exact absurd (led.symm.trans other) (by decide)
        · exact absurd (led.symm.trans other) (by decide)
        have planned := (Orchestrate.check_eq_ok.mp checked).1
        obtain rfl := clientPlan_of_plan built buyData sellData buyOwned sellOwned planned
        obtain ⟨-, -, amount, profit, -, -, -, -, distinct, -⟩ :=
          Orchestrate.plan_eq_ok.mp planned
        exact ⟨⟨amount, profit⟩, distinct, kinds_of_check planned checked⟩
      prepared := fun ⟨positive, distinct, buyNotWhirlpool, sellNotWhirlpool⟩ =>
        ⟨_, prepare_route long led (check_eq_clientPlan built distinct buyData sellData buyOwned
          sellOwned positive.1 positive.2 buyNotWhirlpool sellNotWhirlpool), rfl, rfl,
          fun _ _ => Iff.rfl, fun _ _ => Iff.rfl⟩ }

/-- A generic route lands exactly when both amounts are positive, the exchanges differ and
neither is Whirlpool, and the swaps of the client's plan leave the wallet with the demanded
profit, whatever the exchanges do. -/
theorem genericRoute_lands_iff (first second : CpiEffect) (before after : Ledger)
    (buyData : buy.Constructible derivation.find) (sellData : sell.Constructible derivation.find)
    (buyOwned : Owned cluster buy) (sellOwned : Owned cluster sell)
    (built : Client.buildRoute derivation.find args buy sell = .ok ix) :
    Lands derivation.find cluster.owner ix first second before after ↔
      ((args.investmentLamports ≠ 0 ∧ args.minProfitLamports ≠ 0) ∧ buy.kind ≠ sell.kind ∧
        buy.kind ≠ .whirlpool ∧ sell.kind ≠ .whirlpool) ∧
      ∃ between received,
        (genericTrade derivation args buy sell (load cluster.owner ix.accounts)).Settles
          (load cluster.owner ix.accounts) first second before between after received :=
  (genericRoute_carried buyData sellData buyOwned sellOwned built).lands_iff

end

/-- A PumpSwap to CPMM route lands with 100 tokens bought and sold for 1600 lamports. -/
theorem genericRoute_lands_sample :
    ∃ ix, Client.buildRoute sampleDerivation.find sampleArgs samplePumpSwap sampleCpmm = .ok ix ∧
      Lands sampleDerivation.find sampleCluster.owner ix (fun _ _ _ => .ok sampleBetween)
        (fun _ _ _ => .ok sampleAfter) sampleBefore sampleAfter := by
  obtain ⟨ix, built⟩ := exists_of_isOk
    (show (Client.buildRoute sampleDerivation.find sampleArgs samplePumpSwap sampleCpmm).isOk = true by
      decide +kernel)
  have buyData : samplePumpSwap.Constructible sampleDerivation.find :=
    ⟨samplePoolMeta, samplePool, rfl⟩
  have sellData : sampleCpmm.Constructible sampleDerivation.find := trivial
  have lands := genericRoute_lands_iff (fun _ _ _ => .ok sampleBetween)
    (fun _ _ _ => .ok sampleAfter) sampleBefore sampleAfter buyData sellData
    (show Owned sampleCluster samplePumpSwap by decide +kernel)
    (show Owned sampleCluster sampleCpmm by decide +kernel) built
  rcases Client.buildRoute_eq_ok.mp built with ⟨programId, -, rfl⟩
  let accounts := load sampleCluster.owner (sampleArgs.shared ++
    (samplePumpSwap.buyMetas sampleDerivation.find sampleArgs ++
      sampleCpmm.sellMetas sampleDerivation.find sampleArgs))
  let plan := clientPlan sampleDerivation sampleArgs samplePumpSwap sampleCpmm
  obtain ⟨buy, bought⟩ := exists_of_isOk
    (show ((Orchestrate.buyLeg accounts plan).build 1000).isOk = true by decide +kernel)
  obtain ⟨sell, sold⟩ := exists_of_isOk
    (show ((Orchestrate.sellLeg accounts plan).build 100).isOk = true by decide +kernel)
  exact ⟨_, built, lands.mpr ⟨by decide, sampleBetween, 100,
    sampleTrade_settles _ rfl rfl rfl rfl rfl ⟨buy, bought⟩ ⟨sell, sold⟩⟩⟩

end AtomicArbitrage.Agreement

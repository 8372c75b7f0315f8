import AtomicArbitrage.Agreement.Wire
import Mathlib.Data.List.TakeDrop

/-!
# Variable accounts of the generic route

Behind the fixed accounts of a section the client appends accounts whose number depends
on the pool.  The program forwards as many accounts as the instruction data says, from a
position of its own.  Here is what it forwards for each leg, and when that is what the
client appended.
-/

namespace AtomicArbitrage

open Outcome Word64 Program

namespace Client.Section

/-- The variable accounts that the client appends to a buy section. -/
def buyVariable (pda : FindProgramAddress) (args : GenericArgs) : Section → List AccountMeta
  | pumpSwap d => pumpswapBuyRemaining pda args.walletPubkey args.memeMint args.solMint
      args.solTokenProgram d.poolMeta
  | dlmm d => d.binArrays.map fun bin => .new bin false
  | cpmm _ => []
  | whirlpool d => [.new d.tickArrays.1 false, .new d.tickArrays.2.1 false,
      .new d.tickArrays.2.2 false]

/-- The variable accounts that the client appends to a sell section, padding left out. -/
def sellVariable (pda : FindProgramAddress) (args : GenericArgs) : Section → List AccountMeta
  | pumpSwap d => pumpswapSellRemaining pda args.walletPubkey args.memeMint args.solMint
      args.solTokenProgram d.poolMeta
  | dlmm d => d.binArrays.map fun bin => .new bin false
  | cpmm _ => []
  | whirlpool d => [.new d.tickArrays.1 false, .new d.tickArrays.2.1 false,
      .new d.tickArrays.2.2 false]

end Client.Section

namespace Agreement

/-- What the CPI of a buy leg passes on behind its fixed references.  A Whirlpool
instruction ends with the oracle, behind its tick arrays. -/
def buyForwarded (kind : DexKind) (cpi : Instruction) : List AccountMeta :=
  match kind with
  | .pumpSwap => cpi.accounts.drop 23
  | .dlmm => cpi.accounts.drop 16
  | .cpmm => cpi.accounts.drop 13
  | .whirlpool => (cpi.accounts.drop 7).dropLast

/-- What the CPI of a sell leg passes on: a PumpSwap sale has two fixed references less. -/
def sellForwarded (kind : DexKind) (cpi : Instruction) : List AccountMeta :=
  match kind with
  | .pumpSwap => cpi.accounts.drop 21
  | .dlmm => cpi.accounts.drop 16
  | .cpmm => cpi.accounts.drop 13
  | .whirlpool => (cpi.accounts.drop 7).dropLast

/-- Both legs of a plan build their instruction whatever the amount, and each forwards
the variable accounts that the client appended for it. -/
structure Forwards (derivation : Client.Derivation) (cluster : Cluster)
    (args : Client.GenericArgs) (buy sell : Client.Section) (ix : Instruction)
    (plan : Orchestrate.Plan) : Prop where
  buy : ∀ amount, ∃ cpi,
    (Orchestrate.buyLeg (load cluster.owner ix.accounts) plan).build amount = .ok cpi ∧
      buyForwarded plan.buyKind cpi = buy.buyVariable derivation.find args
  sell : ∀ amount, ∃ cpi,
    (Orchestrate.sellLeg (load cluster.owner ix.accounts) plan).build amount = .ok cpi ∧
      sellForwarded plan.sellKind cpi = sell.sellVariable derivation.find args

/-- The bin arrays repeat the four accounts that stand where the program looks for them:
the mints and token programs of the pool, and then the first bin array again. -/
def BinsShadowed (d : Client.DlmmSectionData) : Prop :=
  d.binArrays <+:
    [d.tokenXMint, d.tokenYMint, d.tokenXProgram, d.tokenYProgram, d.tokenXMint]

/-- When the variable accounts of a buy leg arrive. -/
def BuyArrives : Client.Section → Prop
  | .dlmm d => BinsShadowed d
  | _ => True

/-- When the variable accounts of a sell leg arrive. -/
def SellArrives : Client.Section → Prop
  | .pumpSwap d => d.poolMeta.isCashbackCoin = false
  | .dlmm d => BinsShadowed d
  | _ => True

/-! ## DLMM -/

section

variable {owner : Pubkey → Pubkey} {references : List AccountMeta} {base : Nat}
  {d : Client.DlmmSectionData}

/-- The accounts from offset nine of a DLMM section on, as many as it has bin arrays. -/
def dlmmWindow (d : Client.DlmmSectionData) : List Pubkey :=
  ([d.tokenXMint, d.tokenYMint, d.tokenXProgram, d.tokenYProgram] ++ d.binArrays).take
    d.binArrays.length

/-- A DLMM leg forwards that window, whichever user accounts it trades between. -/
theorem dlmm_forwards (tokenIn tokenOut : Nat) {amount : UInt64}
    (placed : Segment.At references base (Client.pushDlmmGenericAccounts d))
    (count : d.binCount.toNat = d.binArrays.length) (shared : 3 ≤ base)
    (inputShared : tokenIn < 3) (outputShared : tokenOut < 3) :
    ∃ cpi, Cpi.Dlmm.buildSwap2 (load owner references) base amount
        (base + DexDlmm.dlmmTokenXMintOff) (base + DexDlmm.dlmmTokenYMintOff)
        (base + DexDlmm.dlmmTokenXProgOff) (base + DexDlmm.dlmmTokenYProgOff)
        userIdx tokenIn tokenOut d.binCount.toNat = .ok cpi ∧
      cpi.accounts.drop 16 = (dlmmWindow d).map fun key => .new key false := by
  have size : (Client.pushDlmmGenericAccounts d).length = 13 + d.binArrays.length := by
    simp only [Client.pushDlmmGenericAccounts, List.length_append, List.length_map]
    rfl
  have covered := placed.length_le
  have inside : ∀ slot ∈ Cpi.Dlmm.swap2Slots base (base + DexDlmm.dlmmTokenXMintOff)
      (base + DexDlmm.dlmmTokenYMintOff) (base + DexDlmm.dlmmTokenXProgOff)
      (base + DexDlmm.dlmmTokenYProgOff) userIdx tokenIn tokenOut,
      slot.1 < (load owner references).length := by
    simp only [Cpi.Dlmm.swap2Slots, List.forall_mem_cons, length_load]
    simp
    omega
  have window := (placed.slice 9 d.binArrays.length (by omega)).map (view owner)
  have width : ((((Client.pushDlmmGenericAccounts d).drop 9).take
      d.binArrays.length).map (view owner)).length = d.binCount.toNat := by
    rw [List.length_map, List.length_take, List.length_drop, size, count]
    omega
  have head : (Client.pushDlmmGenericAccounts d)[0]? =
      some (.newReadonly d.program false) := rfl
  have program : (load owner references)[base]? =
      some (view owner (.newReadonly d.program false)) := load_at placed head
  refine ⟨_, width ▸ Cpi.Dlmm.buildSwap2_eq (Cpi.metas_eq inside) program window, ?_⟩
  -- behind the sixteen fixed references stands the window, writable and without signer
  change ((((Client.pushDlmmGenericAccounts d).drop 9).take d.binArrays.length).map
    (view owner)).map (fun info => Cpi.asMeta info true) = _
  have entries : (Client.pushDlmmGenericAccounts d).drop 9 =
      [.newReadonly d.tokenXMint false, .newReadonly d.tokenYMint false,
        .newReadonly d.tokenXProgram false, .newReadonly d.tokenYProgram false] ++
      d.binArrays.map fun bin => .new bin false := rfl
  rw [entries, dlmmWindow, List.map_map, List.map_take, List.map_take, List.map_append,
    List.map_append, List.map_map]
  rfl

/-- The window is the client's list exactly when the bin arrays repeat the accounts they
are mistaken for. -/
theorem dlmmWindow_eq_iff (few : d.binArrays.length ≤ 5) :
    dlmmWindow d = d.binArrays ↔ BinsShadowed d := by
  rw [dlmmWindow, BinsShadowed]
  generalize d.binArrays = bins at few ⊢
  match bins, few with
  | [], _ => simp
  | [_], _ => simp [eq_comm]
  | [_, _], _ => simp [eq_comm]
  | [_, _, _], _ => simp [eq_comm]
  | [_, _, _, _], _ => simp [eq_comm]
  | [first, _, _, _, _], _ =>
      -- the fifth account of the window is the first bin array
      simp only [List.cons_append, List.nil_append, List.length_cons, List.length_nil,
        List.take_succ_cons, List.take_zero, List.cons.injEq, and_true,
        List.cons_prefix_cons, List.prefix_rfl]
      constructor
      · rintro ⟨rfl, rfl, rfl, rfl, rfl⟩
        exact ⟨rfl, rfl, rfl, rfl, rfl⟩
      · rintro ⟨rfl, rfl, rfl, rfl, rfl⟩
        exact ⟨rfl, rfl, rfl, rfl, rfl⟩
  | _ :: _ :: _ :: _ :: _ :: _ :: _, few =>
      simp only [List.length_cons] at few
      omega

end

/-! ## CPMM -/

section

variable {owner : Pubkey → Pubkey} {references : List AccountMeta} {base : Nat}

/-- A CPMM swap has its thirteen references and nothing behind them. -/
theorem cpmm_forwards (inputAta outputAta : Nat) {amount minimum : UInt64}
    {block : List AccountMeta} (placed : Segment.At references base block)
    (width : block.length = 13) (shared : 3 ≤ base) (inputShared : inputAta < 3)
    (outputShared : outputAta < 3) :
    ∃ cpi, Cpi.Cpmm.buildSwap (load owner references) base amount minimum userIdx (base + 8)
        (base + 9) inputAta outputAta (base + 10) (base + 11) (base + 12) = .ok cpi ∧
      cpi.accounts.drop 13 = [] := by
  have covered := placed.length_le
  have inside : ∀ slot ∈ Cpi.Cpmm.swapSlots base userIdx (base + 8) (base + 9) inputAta
      outputAta (base + 10) (base + 11) (base + 12),
      slot.1 < (load owner references).length := by
    simp only [Cpi.Cpmm.swapSlots, List.forall_mem_cons, length_load]
    simp
    omega
  have present : base < (load owner references).length := by
    rw [length_load]
    omega
  exact ⟨_, Cpi.Cpmm.buildSwap_eq inside present, rfl⟩

end

/-! ## Legs -/

section

variable (owner : Pubkey → Pubkey) {derivation : Client.Derivation}
  {references : List AccountMeta} {base : Nat} {args : Client.GenericArgs}
  {leg : Client.Section}

/-- Resolved DLMM data has at most five bin arrays, and its count byte counts them. -/
theorem dlmm_counts {d : Client.DlmmSectionData}
    (constructible : (Client.Section.dlmm d).Constructible derivation.find) :
    d.binCount.toNat = d.binArrays.length ∧ d.binArrays.length ≤ 5 := by
  rcases constructible with ⟨reserves, memeTokenProgram, -, resolved⟩
  have count := Client.dlmmSectionData_binCount resolved
  simp only [Client.dlmmSectionData, bind_eq_ok, pure_eq_ok] at resolved
  rcases resolved with ⟨_, _, _, _, _, _, _, _, _, _, bins, binsParsed, rfl⟩
  have bounded : reserves.binArrayCount ≤ 5 := Nat.min_le_right _ _
  exact ⟨count, by rw [Client.DlmmPoolReserves.length_parseBinArrays binsParsed]; exact bounded⟩

/-- Forwarding the window of a DLMM section is forwarding its bin arrays exactly when
those repeat the window. -/
theorem dlmmWindow_map_eq_iff {d : Client.DlmmSectionData} (few : d.binArrays.length ≤ 5) :
    ((dlmmWindow d).map fun key => AccountMeta.new key false) =
        (d.binArrays.map fun bin => AccountMeta.new bin false) ↔ BinsShadowed d := by
  have injective : Function.Injective fun key => AccountMeta.new key false :=
    fun _ _ same => congrArg AccountMeta.pubkey same
  rw [(List.map_injective_iff.mpr injective).eq_iff, dlmmWindow_eq_iff few]

/-- A DLMM leg forwards its bin arrays exactly when they repeat the window, whichever user
accounts it trades between. -/
theorem dlmmLeg_forwards_iff {d : Client.DlmmSectionData}
    (constructible : (Client.Section.dlmm d).Constructible derivation.find)
    (tokenIn tokenOut : Nat) {amount : UInt64}
    (placed : Segment.At references base (Client.pushDlmmGenericAccounts d))
    (shared : 3 ≤ base) (inputShared : tokenIn < 3) (outputShared : tokenOut < 3) :
    (∃ cpi, Cpi.Dlmm.buildSwap2 (load owner references) base amount
        (base + DexDlmm.dlmmTokenXMintOff) (base + DexDlmm.dlmmTokenYMintOff)
        (base + DexDlmm.dlmmTokenXProgOff) (base + DexDlmm.dlmmTokenYProgOff)
        userIdx tokenIn tokenOut d.binCount.toNat = .ok cpi ∧
      cpi.accounts.drop 16 = d.binArrays.map fun bin => .new bin false) ↔ BinsShadowed d := by
  rcases dlmm_counts constructible with ⟨count, few⟩
  obtain ⟨cpi, built, passed⟩ := dlmm_forwards tokenIn tokenOut placed count shared inputShared
    outputShared
  refine (exists_ok_and_iff built).trans ?_
  rw [passed]
  exact dlmmWindow_map_eq_iff few

/-- The buy leg of a section forwards the section's variable accounts, unless it is a DLMM
section. -/
theorem buyCpi_forwards_iff (constructible : leg.Constructible derivation.find)
    (notWhirlpool : leg.kind ≠ .whirlpool)
    (placed : Segment.At references base (leg.buyMetas derivation.find args))
    (shared : 3 ≤ base) (amount minimum : UInt64) :
    (∃ cpi, Orchestrate.buyCpi (load owner references) leg.kind base
        leg.wireRemaining.toNat amount minimum = .ok cpi ∧
      buyForwarded leg.kind cpi = leg.buyVariable derivation.find args) ↔ BuyArrives leg := by
  cases leg with
  | pumpSwap d =>
      rcases constructible with ⟨poolMeta, pool, rfl⟩
      have all := Client.length_pumpswapBuyRemaining derivation.find args.walletPubkey
        args.memeMint args.solMint args.solTokenProgram poolMeta
      refine (exists_ok_and_iff (buildBuy_at placed all.ge amount minimum false)).trans
        (iff_of_true ?_ trivial)
      exact List.take_of_length_le all.le
  | dlmm d =>
      exact dlmmLeg_forwards_iff owner constructible userSolAtaIdx userMemeAtaIdx placed shared
        (by decide) (by decide)
  | cpmm d =>
      obtain ⟨cpi, built, passed⟩ := cpmm_forwards userSolAtaIdx userMemeAtaIdx placed rfl
        shared (by decide) (by decide)
      exact (exists_ok_and_iff built).trans (iff_of_true passed trivial)
  | whirlpool d => exact absurd rfl notWhirlpool

/-- The sell leg of a section forwards the section's variable accounts, unless it is a
DLMM section or sells a cashback coin. -/
theorem sellCpi_forwards_iff (constructible : leg.Constructible derivation.find)
    (notWhirlpool : leg.kind ≠ .whirlpool)
    (placed : Segment.At references base (leg.sellMetas derivation.find args))
    (shared : 3 ≤ base) (amount minimum : UInt64) :
    (∃ cpi, Orchestrate.sellCpi (load owner references) leg.kind base
        leg.wireRemaining.toNat amount minimum = .ok cpi ∧
      sellForwarded leg.kind cpi = leg.sellVariable derivation.find args) ↔
        SellArrives leg := by
  cases leg with
  | pumpSwap d =>
      rcases constructible with ⟨poolMeta, pool, rfl⟩
      have all := Client.length_pumpswapSellRemaining derivation.find args.walletPubkey
        args.memeMint args.solMint args.solTokenProgram poolMeta
      have excess := Client.sellRemainingCount_eq poolMeta
      have covered : (Client.pumpswapBuyRemainingCount poolMeta).toNat ≤
          (Client.pumpswapSellRemaining derivation.find args.walletPubkey args.memeMint
            args.solMint args.solTokenProgram poolMeta).length := by
        rw [all]
        omega
      refine (exists_ok_and_iff (buildSell_at placed.left covered amount minimum)).trans ?_
      -- the program counts as for a buy, so the last account is missing when there is one more
      change (Client.pumpswapSellRemaining _ _ _ _ _ poolMeta).take _ =
        Client.pumpswapSellRemaining _ _ _ _ _ poolMeta ↔ poolMeta.isCashbackCoin = false
      rw [List.take_eq_self_iff, all, excess]
      cases poolMeta.isCashbackCoin <;> simp
  | dlmm d =>
      exact dlmmLeg_forwards_iff owner constructible userMemeAtaIdx userSolAtaIdx placed shared
        (by decide) (by decide)
  | cpmm d =>
      obtain ⟨cpi, built, passed⟩ := cpmm_forwards userMemeAtaIdx userSolAtaIdx placed rfl
        shared (by decide) (by decide)
      exact (exists_ok_and_iff built).trans (iff_of_true passed trivial)
  | whirlpool d => exact absurd rfl notWhirlpool

end

/-- The program forwards the variable accounts of both legs exactly when the buy leg is
no DLMM leg and the sell leg neither a DLMM leg nor the sale of a cashback coin, save
for bin arrays that repeat the mints and token programs in front of them. -/
theorem forwards_iff {derivation : Client.Derivation} {cluster : Cluster}
    {args : Client.GenericArgs} {buy sell : Client.Section} {ix : Instruction}
    {plan : Orchestrate.Plan}
    (built : Client.buildRoute derivation.find args buy sell = .ok ix)
    (buyData : buy.Constructible derivation.find)
    (sellData : sell.Constructible derivation.find)
    (buyOwned : Owned cluster buy) (sellOwned : Owned cluster sell)
    (checked : Orchestrate.check derivation.find (load cluster.owner ix.accounts) ix.data =
      .ok plan) :
    Forwards derivation cluster args buy sell ix plan ↔
      BuyArrives buy ∧ SellArrives sell := by
  have planned := (Orchestrate.check_eq_ok.mp checked).1
  obtain rfl := clientPlan_of_plan built buyData sellData buyOwned sellOwned planned
  rcases kinds_of_check planned checked with ⟨buyNotWhirlpool, sellNotWhirlpool⟩
  rcases sections_placed built with ⟨buyPlaced, sellPlaced, -, -⟩
  have buyLeg := buyCpi_forwards_iff cluster.owner buyData buyNotWhirlpool buyPlaced
    le_rfl
  have sellLeg := sellCpi_forwards_iff cluster.owner sellData sellNotWhirlpool sellPlaced
    (Nat.le_add_right 3 _)
  constructor
  · rintro ⟨buyForwards, sellForwards⟩
    exact ⟨(buyLeg 0 args.minMemeOut).mp (buyForwards 0), (sellLeg 0 1).mp (sellForwards 0)⟩
  · rintro ⟨buyArrives, sellArrives⟩
    exact ⟨fun amount => (buyLeg amount args.minMemeOut).mpr buyArrives,
      fun amount => (sellLeg amount 1).mpr sellArrives⟩

/-- The variable accounts of a PumpSwap to CPMM route arrive. -/
theorem forwards_iff_sample :
    ∃ ix plan, Client.buildRoute sampleDerivation.find sampleArgs samplePumpSwap sampleCpmm =
        .ok ix ∧
      Orchestrate.check sampleDerivation.find (load sampleCluster.owner ix.accounts) ix.data =
        .ok plan ∧
      Forwards sampleDerivation sampleCluster sampleArgs samplePumpSwap sampleCpmm ix plan := by
  obtain ⟨ix, built⟩ := exists_of_isOk
    (show (Client.buildRoute sampleDerivation.find sampleArgs samplePumpSwap
      sampleCpmm).isOk = true by decide +kernel)
  have pumpSwapData : samplePumpSwap.Constructible sampleDerivation.find :=
    ⟨samplePoolMeta, samplePool, rfl⟩
  have pumpSwapOwned : Owned sampleCluster samplePumpSwap := by decide +kernel
  have cpmmOwned : Owned sampleCluster sampleCpmm := by decide +kernel
  have checked := check_eq_clientPlan built (by decide) pumpSwapData trivial pumpSwapOwned
    cpmmOwned (by decide) (by decide) (by decide) (by decide)
  exact ⟨ix, _, built, checked,
    (forwards_iff built pumpSwapData trivial pumpSwapOwned cpmmOwned checked).mpr
      ⟨trivial, trivial⟩⟩

/-- The section data that is resolved from the cached pool. -/
def sampleDlmmData : Client.DlmmSectionData where
  program := dlmmId
  lbPair := sampleLbPair
  bitmap := dlmmId
  reserveX := .ofLiteral "7VtfL8fvgNfhz17qKRMjzQEXgbdpnHHHQRh54R9jP2RJ"
  reserveY := .ofLiteral "7hTckgnGnLQR6sdH7YkqFTAA7VwTfYFaZ6EhEsU3saCX"
  oracle := samplePda [dlmmOracleSeed, sampleLbPair.bytes] dlmmId
  hostFee := dlmmId
  memo := memoId
  eventAuth := dlmmEventAuth
  tokenXMint := nativeSolMint
  tokenYMint := sampleMemeMint
  tokenXProgram := tokenId
  tokenYProgram := tokenId
  binArrays :=
    [.ofLiteral "9rPYyANsfQZw3DnDmKE3YCQF5E8oD89UXoHn9JFEhJUz",
      .ofLiteral "AVmoTthdrX6tKt4nDjco2D775W2YK3sDhxPcMmzUAmTY"]
  binCount := 2

theorem sampleDlmmData_resolved :
    Client.dlmmSectionData sampleDerivation.find sampleReserves tokenId =
      .ok sampleDlmmData := by
  decide +kernel

/-- In a DLMM to PumpSwap route of a cashback coin, the DLMM instruction gets the mints
for bin arrays and the sale loses its last account. -/
theorem not_forwards_sample :
    ∃ ix plan, Client.buildRoute sampleDerivation.find sampleArgs (.dlmm sampleDlmmData)
        samplePumpSwap = .ok ix ∧
      Orchestrate.check sampleDerivation.find (load sampleCluster.owner ix.accounts) ix.data =
        .ok plan ∧
      ¬(∃ cpi, (Orchestrate.buyLeg (load sampleCluster.owner ix.accounts) plan).build 1000 =
          .ok cpi ∧ buyForwarded plan.buyKind cpi =
            (Client.Section.dlmm sampleDlmmData).buyVariable sampleDerivation.find
              sampleArgs) ∧
      ¬(∃ cpi, (Orchestrate.sellLeg (load sampleCluster.owner ix.accounts) plan).build 100 =
          .ok cpi ∧ sellForwarded plan.sellKind cpi =
            samplePumpSwap.sellVariable sampleDerivation.find sampleArgs) ∧
      ¬Forwards sampleDerivation sampleCluster sampleArgs (.dlmm sampleDlmmData)
        samplePumpSwap ix plan := by
  obtain ⟨ix, built⟩ := exists_of_isOk
    (show (Client.buildRoute sampleDerivation.find sampleArgs (.dlmm sampleDlmmData)
      samplePumpSwap).isOk = true by decide +kernel)
  have dlmmData : (Client.Section.dlmm sampleDlmmData).Constructible sampleDerivation.find :=
    ⟨sampleReserves, tokenId, by decide, sampleDlmmData_resolved⟩
  have pumpSwapData : samplePumpSwap.Constructible sampleDerivation.find :=
    ⟨samplePoolMeta, samplePool, rfl⟩
  have dlmmOwned : Owned sampleCluster (.dlmm sampleDlmmData) := by decide +kernel
  have pumpSwapOwned : Owned sampleCluster samplePumpSwap := by decide +kernel
  have checked := check_eq_clientPlan built (by decide) dlmmData pumpSwapData dlmmOwned
    pumpSwapOwned (by decide) (by decide) (by decide) (by decide)
  rcases sections_placed built with ⟨buyPlaced, sellPlaced, -, -⟩
  have notShadowed : ¬BuyArrives (.dlmm sampleDlmmData) := by
    change ¬(_ <+: _)
    decide +kernel
  have cashback : ¬SellArrives samplePumpSwap := by
    change ¬(true = false)
    decide
  have buyLost := mt (buyCpi_forwards_iff sampleCluster.owner dlmmData (by decide) buyPlaced
    le_rfl 1000 150).mp notShadowed
  have sellLost := mt (sellCpi_forwards_iff sampleCluster.owner pumpSwapData (by decide)
    sellPlaced (Nat.le_add_right 3 _) 100 1).mp cashback
  exact ⟨ix, _, built, checked, buyLost, sellLost, fun forwards => buyLost (forwards.buy 1000)⟩

end Agreement

end AtomicArbitrage

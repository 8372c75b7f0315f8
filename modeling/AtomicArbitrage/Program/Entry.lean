import AtomicArbitrage.Program.LegacyRoutes
import AtomicArbitrage.Program.Orchestrate

/-!
# The entry point

`process_instruction` dispatches on the discriminator.  Whatever handler accepts an
instruction, acceptance means the same: the user signed, a profit of at least one
lamport was demanded and made, and exactly the tokens that the first exchange delivered
were handed to the second.  The exchanges themselves are arbitrary.
-/

namespace AtomicArbitrage.Program

open Outcome Word64

/-- `process_instruction`. -/
def processInstruction (pda : FindProgramAddress) (first second : CpiEffect)
    (accounts : List AccountInfo) (data : List UInt8) (ledger : Ledger) : Exec Receipt := do
  require (¬data.length < 8) (.error .invalidInstructionData)
  let disc := data.take 8
  if disc = routePumpToDlmmDisc then
    RoutePumpToDlmm.handle pda first second accounts data ledger
  else if disc = routeDlmmToPumpDisc then
    RouteDlmmToPump.handle pda first second accounts data ledger
  else if disc = routeDisc then
    Orchestrate.handle pda first second accounts data ledger
  else
    .error (arbErr arbBadDiscriminator)

variable {pda : FindProgramAddress} {first second : CpiEffect}
  {accounts : List AccountInfo} {data : List UInt8} {ledger : Ledger} {receipt : Receipt}

/-! ## The part before the first invocation -/

/-- What a handler has decided before it reads a balance. -/
structure Prepared where
  amountIn : UInt64
  minProfit : UInt64
  first : Leg
  second : Leg

/-- The checks of the selected handler, with the two legs it goes on to settle. -/
def prepare (pda : FindProgramAddress) (accounts : List AccountInfo) (data : List UInt8) :
    Exec Prepared := do
  require (¬data.length < 8) (.error .invalidInstructionData)
  let disc := data.take 8
  if disc = routePumpToDlmmDisc then do
    let plan ← RoutePumpToDlmm.check pda accounts data
    pure { amountIn := plan.route.amountIn, minProfit := plan.route.minProfitLamports
           first := RoutePumpToDlmm.buyLeg accounts plan
           second := RoutePumpToDlmm.sellLeg accounts plan }
  else if disc = routeDlmmToPumpDisc then do
    let plan ← RouteDlmmToPump.check pda accounts data
    pure { amountIn := plan.route.amountIn, minProfit := plan.route.minProfitLamports
           first := RouteDlmmToPump.buyLeg accounts plan
           second := RouteDlmmToPump.sellLeg accounts plan }
  else if disc = routeDisc then do
    let plan ← Orchestrate.check pda accounts data
    pure { amountIn := plan.route.amountIn, minProfit := plan.route.minProfit
           first := Orchestrate.buyLeg accounts plan
           second := Orchestrate.sellLeg accounts plan }
  else
    .error (arbErr arbBadDiscriminator)

/-- Every handler prepares its legs without looking at the ledger and then settles. -/
theorem processInstruction_eq (pda : FindProgramAddress) (first second : CpiEffect)
    (accounts : List AccountInfo) (data : List UInt8) (ledger : Ledger) :
    processInstruction pda first second accounts data ledger =
      prepare pda accounts data >>= fun prepared =>
        settle accounts prepared.amountIn prepared.minProfit prepared.first
          prepared.second first second ledger := by
  rw [processInstruction, prepare]
  simp only [bind_assoc]
  congr 1
  funext _
  split_ifs <;> simp [RoutePumpToDlmm.handle, RouteDlmmToPump.handle, Orchestrate.handle]

variable {pda : FindProgramAddress} {first second : CpiEffect}
  {accounts : List AccountInfo} {data : List UInt8} {ledger : Ledger} {receipt : Receipt}

/-- The three ways to prepare an instruction, one for each discriminator. -/
theorem prepare_cases {prepared : Prepared}
    (accepted : prepare pda accounts data = .ok prepared) :
    (data.take 8 = routePumpToDlmmDisc ∧
      ∃ plan, RoutePumpToDlmm.check pda accounts data = .ok plan ∧
        prepared = ⟨plan.route.amountIn, plan.route.minProfitLamports,
          RoutePumpToDlmm.buyLeg accounts plan, RoutePumpToDlmm.sellLeg accounts plan⟩) ∨
    (data.take 8 = routeDlmmToPumpDisc ∧
      ∃ plan, RouteDlmmToPump.check pda accounts data = .ok plan ∧
        prepared = ⟨plan.route.amountIn, plan.route.minProfitLamports,
          RouteDlmmToPump.buyLeg accounts plan, RouteDlmmToPump.sellLeg accounts plan⟩) ∨
    (data.take 8 = routeDisc ∧
      ∃ plan, Orchestrate.check pda accounts data = .ok plan ∧
        prepared = ⟨plan.route.amountIn, plan.route.minProfit,
          Orchestrate.buyLeg accounts plan, Orchestrate.sellLeg accounts plan⟩) := by
  rcases bind_eq_ok.mp accepted with ⟨_, _, dispatched⟩
  dsimp only at dispatched
  split_ifs at dispatched with pumpFirst dlmmFirst generic
  · rcases bind_eq_ok.mp dispatched with ⟨plan, checked, same⟩
    exact .inl ⟨pumpFirst, plan, checked, (pure_eq_ok.mp same).symm⟩
  · rcases bind_eq_ok.mp dispatched with ⟨plan, checked, same⟩
    exact .inr (.inl ⟨dlmmFirst, plan, checked, (pure_eq_ok.mp same).symm⟩)
  · rcases bind_eq_ok.mp dispatched with ⟨plan, checked, same⟩
    exact .inr (.inr ⟨generic, plan, checked, (pure_eq_ok.mp same).symm⟩)

/-- The first discriminator prepares the PumpSwap to DLMM handler. -/
theorem prepare_pumpToDlmm {plan : LegacyPlan} (long : 8 ≤ data.length)
    (led : data.take 8 = routePumpToDlmmDisc)
    (checked : RoutePumpToDlmm.check pda accounts data = .ok plan) :
    prepare pda accounts data = .ok ⟨plan.route.amountIn, plan.route.minProfitLamports,
      RoutePumpToDlmm.buyLeg accounts plan, RoutePumpToDlmm.sellLeg accounts plan⟩ := by
  simp only [prepare, bind_eq_ok, require_eq_ok]
  refine ⟨(), Nat.not_lt.mpr long, ?_⟩
  rw [if_pos led, checked]
  rfl

/-- The second discriminator prepares the DLMM to PumpSwap handler. -/
theorem prepare_dlmmToPump {plan : LegacyPlan} (long : 8 ≤ data.length)
    (led : data.take 8 = routeDlmmToPumpDisc)
    (checked : RouteDlmmToPump.check pda accounts data = .ok plan) :
    prepare pda accounts data = .ok ⟨plan.route.amountIn, plan.route.minProfitLamports,
      RouteDlmmToPump.buyLeg accounts plan, RouteDlmmToPump.sellLeg accounts plan⟩ := by
  simp only [prepare, bind_eq_ok, require_eq_ok]
  refine ⟨(), Nat.not_lt.mpr long, ?_⟩
  rw [if_neg (by rw [led]; decide), if_pos led, checked]
  rfl

/-- The third discriminator prepares the generic handler. -/
theorem prepare_route {plan : Orchestrate.Plan} (long : 8 ≤ data.length)
    (led : data.take 8 = routeDisc)
    (checked : Orchestrate.check pda accounts data = .ok plan) :
    prepare pda accounts data = .ok ⟨plan.route.amountIn, plan.route.minProfit,
      Orchestrate.buyLeg accounts plan, Orchestrate.sellLeg accounts plan⟩ := by
  simp only [prepare, bind_eq_ok, require_eq_ok]
  refine ⟨(), Nat.not_lt.mpr long, ?_⟩
  rw [if_neg (by rw [led]; decide), if_neg (by rw [led]; decide), if_pos led, checked]
  rfl

/-- Every kind of sell leg asks for the amount it is given. -/
theorem Orchestrate.sellCpi_amountIn {kind : DexKind} {base remaining : Nat}
    {amount minimum : UInt64} {instruction : Instruction}
    (built : sellCpi accounts kind base remaining amount minimum = .ok instruction) :
    Cpi.amountIn instruction = amount := by
  cases kind with
  | pumpSwap => exact (Cpi.PumpSwap.buildSell_asks built).amountIn
  | dlmm => exact (Cpi.Dlmm.buildSwap2_asks built).amountIn
  | cpmm => exact (Cpi.Cpmm.buildSwap_asks built).amountIn
  | whirlpool => exact (Cpi.Whirlpool.buildSwap_asks (base + 11) built).amountIn

/-- What every handler checks and passes on: a signer, a positive profit demand read
from the data, and a second leg that asks for the amount it is given. -/
theorem prepare_spec {prepared : Prepared}
    (accepted : prepare pda accounts data = .ok prepared) :
    (∃ user, accounts[0]? = some user ∧ user.isSigner = true) ∧
      prepared.minProfit = readAt data 16 ∧ prepared.minProfit ≠ 0 ∧
      ∀ amount instruction, prepared.second.build amount = .ok instruction →
        Cpi.amountIn instruction = amount := by
  obtain ⟨-, plan, checked, rfl⟩ | ⟨-, plan, checked, rfl⟩ | ⟨-, plan, checked, rfl⟩ :=
    prepare_cases accepted
  · rcases RoutePumpToDlmm.check_eq_ok.mp checked with ⟨-, decoded, valid, -, -, -, checked⟩
    exact ⟨checked.user, by rw [← decoded]; rfl, valid.minProfit,
      fun _ _ built => (Cpi.Dlmm.buildSwap2_asks built).amountIn⟩
  · rcases RouteDlmmToPump.check_eq_ok.mp checked with ⟨-, decoded, valid, -, -, -, checked⟩
    exact ⟨checked.user, by rw [← decoded]; rfl, valid.minProfit,
      fun _ _ built => (Cpi.PumpSwap.buildSell_asks built).amountIn⟩
  · rcases Orchestrate.check_eq_ok.mp checked with ⟨planned, user, -, -⟩
    rcases Orchestrate.plan_eq_ok.mp planned with ⟨-, decoded, -, minProfit, -⟩
    exact ⟨user, by rw [decoded]; rfl, minProfit,
      fun _ _ built => Orchestrate.sellCpi_amountIn built⟩

/-- Acceptance is profitable and leaves the token holding alone, whatever the two
exchanges do: the user signed and demanded a profit, the final SOL balance fits in a
word and exceeds the initial one by that profit, the token account ends where it
started, and the second exchange was asked for exactly what the first one delivered. -/
theorem processInstruction_profitable
    (accepted : processInstruction pda first second accounts data ledger = .ok receipt) :
    ∃ user userSolAta userMemeAta,
      accounts[0]? = some user ∧ accounts[1]? = some userSolAta ∧
      accounts[2]? = some userMemeAta ∧
      user.isSigner = true ∧ 1 ≤ (readAt data 16).toNat ∧
      (receipt.first.before = ledger ∧
        first receipt.first.instruction accounts ledger = .ok receipt.first.after ∧
        second receipt.second.instruction accounts receipt.first.after =
          .ok receipt.second.after) ∧
      solBalance ledger user.key userSolAta.key + (readAt data 16).toNat ≤
        solBalance receipt.second.after user.key userSolAta.key ∧
      solBalance receipt.second.after user.key userSolAta.key < 2 ^ 64 ∧
      tokenAmount receipt.second.after userMemeAta.key =
        tokenAmount ledger userMemeAta.key ∧
      (tokenAmount ledger userMemeAta.key).toNat +
          (Cpi.amountIn receipt.second.instruction).toNat =
        (tokenAmount receipt.first.after userMemeAta.key).toNat := by
  rw [processInstruction_eq] at accepted
  rcases bind_eq_ok.mp accepted with ⟨prepared, preparation, settled⟩
  rcases prepare_spec preparation with ⟨⟨user, userAt, signer⟩, demanded, positive, honours⟩
  rcases settled_of_settle settled with ⟨user', userSolAta, userMemeAta, received, facts⟩
  obtain rfl : user = user' := by
    have same := facts.userAt
    rw [userIdx, userAt] at same
    exact Option.some.inj same
  rw [demanded] at positive
  have asked : Cpi.amountIn receipt.second.instruction = received :=
    honours _ _ facts.secondBuilt
  refine ⟨user, userSolAta, userMemeAta, userAt, facts.userSolAtaAt, facts.userMemeAtaAt,
    signer, toNat_pos_iff.mpr positive,
    ⟨facts.firstBefore, facts.firstInvoked, facts.secondInvoked⟩, demanded ▸ facts.profit,
    facts.bounded, facts.restored, ?_⟩
  rw [asked, facts.bought]

/-! ## A concrete run

One accepted instruction of the DLMM to PumpSwap route, with the program-derived
addresses of the deployed programs. -/

def sampleLbPair : Pubkey := .ofLiteral "5rCf1DM8LjKTw4YqhnoLcngyZYeNnQqztScTogYHAS6"

/-- The derived addresses that the sample instruction needs. -/
def samplePda : FindProgramAddress := fun seeds program =>
  if seeds = [pumpEventAuthSeed] ∧ program = pumpSwapId then
    .ofLiteral "GS4CU59F31iL7aR2Q8zVS8DRrcRnXX1yjQ66TqNVQnaR"
  else if seeds = [pumpGlobalConfigSeed] ∧ program = pumpSwapId then
    .ofLiteral "ADyA8hdefvWN2dbGGWFotbzWxrAvLW83WG6QCVXvJKqw"
  else if seeds = [pumpFeeConfigSeed, pumpSwapId.bytes] ∧ program = feeProgramId then
    .ofLiteral "5PHirr8joyTMp9JMm6nW7hNDVyEYdkzDqazxPD7RaTjx"
  else if seeds = [dlmmOracleSeed, sampleLbPair.bytes] ∧ program = dlmmId then
    .ofLiteral "59YuGWPunbchD2mbi9U7qvjWQKQReGeepn4ZSr9zz9Li"
  else if seeds = [whirlpoolAuthSeed] ∧ program = whirlpoolId then
    .ofLiteral "7mWNSdpCVeYMQcdwJQwmVcri7MvtxMqxE4XYFWAPc6ea"
  else .zero

/-- A view of an account that does not sign. -/
def samplePlain (key : Pubkey) : AccountInfo :=
  { key, owner := .zero, isSigner := false, isWritable := true }

def sampleUser : Pubkey := .ofNat 1
def sampleSolAta : Pubkey := .ofNat 2
def sampleMemeAta : Pubkey := .ofNat 3

/-- Three shared accounts, nine DLMM accounts with one bin array, and the twenty-one
accounts of a PumpSwap sale. -/
def sampleAccounts : List AccountInfo :=
  [{ key := sampleUser, owner := systemId, isSigner := true, isWritable := true }] ++
  ([sampleSolAta, sampleMemeAta] ++
    [dlmmId, sampleLbPair, dlmmId, .ofNat 10, .ofNat 11,
      samplePda [dlmmOracleSeed, sampleLbPair.bytes] dlmmId, dlmmId, memoId, dlmmEventAuth,
      .ofNat 12] ++
    [.ofNat 20, sampleUser, samplePda [pumpGlobalConfigSeed] pumpSwapId, .ofNat 21,
      nativeSolMint, sampleMemeAta, sampleSolAta, .ofNat 22, .ofNat 23, .ofNat 24, .ofNat 25,
      tokenId, tokenId, systemId, ataId, samplePda [pumpEventAuthSeed] pumpSwapId,
      pumpSwapId, .ofNat 26, .ofNat 27,
      samplePda [pumpFeeConfigSeed, pumpSwapId.bytes] feeProgramId, feeProgramId]).map
    samplePlain

/-- Swap 1000 lamports for a profit of 500, asking for 150 intermediate tokens. -/
def sampleData : List UInt8 :=
  routeDlmmToPumpDisc ++ (bytes 1000 ++ (bytes 500 ++ (bytes 150 ++ [0, 1, 0, 1])))

/-- The user's balances: native lamports, wrapped SOL and intermediate tokens. -/
def sampleLedger (lamports wrapped tokens : UInt64) : Ledger := fun key =>
  { lamports := if key = sampleUser then lamports else 0
    data := List.replicate 64 0 ++
      bytes (if key = sampleSolAta then wrapped else if key = sampleMemeAta then tokens
        else 0) }

def sampleBefore : Ledger := sampleLedger 1000000 5000 7
def sampleBetween : Ledger := sampleLedger 1000000 4000 107
def sampleAfter : Ledger := sampleLedger 1000000 5600 7

/-- The sample instruction is accepted, so its balances moved as the general theorem
says they do. -/
theorem processInstruction_profitable_sample :
    ∃ receipt,
      processInstruction samplePda (fun _ _ _ => .ok sampleBetween)
        (fun _ _ _ => .ok sampleAfter) sampleAccounts sampleData sampleBefore =
          .ok receipt ∧
      ∃ user userSolAta, sampleAccounts[0]? = some user ∧
        sampleAccounts[1]? = some userSolAta ∧
        solBalance sampleBefore user.key userSolAta.key + (readAt sampleData 16).toNat ≤
          solBalance receipt.second.after user.key userSolAta.key := by
  obtain ⟨receipt, accepted⟩ := exists_of_isOk
    (show (processInstruction samplePda (fun _ _ _ => .ok sampleBetween)
      (fun _ _ _ => .ok sampleAfter) sampleAccounts sampleData sampleBefore).isOk = true by
        decide +kernel)
  obtain ⟨user, userSolAta, _, userAt, userSolAtaAt, _, _, _, _, profit, _⟩ :=
    processInstruction_profitable accepted
  exact ⟨receipt, accepted, user, userSolAta, userAt, userSolAtaAt, profit⟩

end AtomicArbitrage.Program

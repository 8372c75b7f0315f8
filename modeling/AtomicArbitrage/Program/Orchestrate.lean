import AtomicArbitrage.Program.Sections
import AtomicArbitrage.Program.Settlement

/-!
# The generic route

`orchestrate::handle` finds the two exchanges by probing the account list, validates
their sections and settles the two legs.  The pure part before the signer check is
`plan`; everything before the first balance read is `check`.
-/

namespace AtomicArbitrage.Program

open Outcome Word64

inductive DexKind where
  | pumpSwap
  | dlmm
  | cpmm
  | whirlpool
deriving DecidableEq

namespace DexKind

/-- The four exchanges. -/
def all : List DexKind := [.pumpSwap, .dlmm, .cpmm, .whirlpool]

theorem mem_all (kind : DexKind) : kind ∈ all := by
  cases kind <;> decide

/-- `fixed_len`: the accounts of a section without its remaining accounts.  PumpSwap
counts the buy list on both sides. -/
def fixedLen : DexKind → Nat
  | .pumpSwap => DexPumpSwap.pumpSwapBuyFixedLen
  | .dlmm => DexDlmm.dlmmFixedLen
  | .cpmm => DexCpmm.cpmmFixedLen
  | .whirlpool => DexWhirlpool.whirlpoolFixedLen

/-- `from_program_id`. -/
def fromProgramId (pid : Pubkey) : Option DexKind :=
  if pid = pumpSwapId then some .pumpSwap
  else if pid = dlmmId then some .dlmm
  else if pid = cpmmId then some .cpmm
  else if pid = whirlpoolId then some .whirlpool
  else none

/-- The program address of each kind. -/
def programId : DexKind → Pubkey
  | .pumpSwap => pumpSwapId
  | .dlmm => dlmmId
  | .cpmm => cpmmId
  | .whirlpool => whirlpoolId

/-- A program address is recognised as its own kind and no other. -/
theorem fromProgramId_eq_some {pid : Pubkey} {kind : DexKind} :
    fromProgramId pid = some kind ↔ pid = kind.programId := by
  have distinct := programIds_nodup
  simp only [List.nodup_cons, List.mem_cons, List.not_mem_nil, or_false, not_or] at distinct
  rcases distinct with ⟨⟨pumpDlmm, pumpCpmm, pumpWhirl⟩, ⟨dlmmCpmm, dlmmWhirl⟩, cpmmWhirl, -⟩
  constructor
  · intro recognised
    rw [fromProgramId] at recognised
    split_ifs at recognised <;> cases recognised <;> assumption
  · rintro rfl
    cases kind with
    | pumpSwap => simp [fromProgramId, programId]
    | dlmm => simp [fromProgramId, programId, Ne.symm pumpDlmm]
    | cpmm => simp [fromProgramId, programId, Ne.symm pumpCpmm, Ne.symm dlmmCpmm]
    | whirlpool =>
        simp [fromProgramId, programId, Ne.symm pumpWhirl, Ne.symm dlmmWhirl,
          Ne.symm cpmmWhirl]

end DexKind

namespace Orchestrate

/-- The thirty-six bytes of the generic route. -/
structure RouteData where
  amountIn : UInt64
  minProfit : UInt64
  minIntermediate : UInt64
  trackVolume : Bool
  buyIsSol : Bool
  buyRemaining : Nat
  sellRemaining : Nat
deriving DecidableEq

/-- The fields at their fixed offsets. -/
def RouteData.decode (data : List UInt8) : RouteData where
  amountIn := readAt data offAmountIn
  minProfit := readAt data offMinProfit
  minIntermediate := readAt data offMinIntermediate
  trackVolume := data.getD offTrackVolume 0 != 0
  buyIsSol := data.getD offDlmmSolIsX 0 != 0
  buyRemaining := (data.getD offBuyRemaining 0).toNat
  sellRemaining := (data.getD offSellRemaining 0).toNat

/-- Step 1: parse the instruction data. -/
def parse (data : List UInt8) : Exec RouteData := do
  require (data.length = ixDataLen) (.error .invalidInstructionData)
  pure (.decode data)

/-- `identify_dex`: the program at the start of the section, else sixteen further. -/
def identifyDex (accounts : List AccountInfo) (base : Nat) : Option DexKind :=
  match accounts[base]? with
  | none => none
  | some first =>
      match DexKind.fromProgramId first.key with
      | some kind => some kind
      | none =>
          match accounts[base + 16]? with
          | none => none
          | some probe => DexKind.fromProgramId probe.key

/-- What the handler knows once the account count has been checked. -/
structure Plan where
  route : RouteData
  buyKind : DexKind
  sellKind : DexKind
  buyBase : Nat
  sellBase : Nat
deriving DecidableEq

/-- Steps 1 to 3: parse, identify both exchanges, check the account count. -/
def plan (accounts : List AccountInfo) (data : List UInt8) : Exec Plan := do
  let route ← parse data
  require (¬(route.amountIn = 0 ∨ route.minProfit = 0)) (arbErr arbZeroAmount)
  let buyBase := sharedFixedLen
  let buyKind ← orFail (identifyDex accounts buyBase) (arbErr arbUnknownDexPair)
  let buyDexLen := buyKind.fixedLen + route.buyRemaining
  let sellBase := buyBase + buyDexLen
  let sellKind ← orFail (identifyDex accounts sellBase) (arbErr arbUnknownDexPair)
  require (buyKind ≠ sellKind) (arbErr arbUnknownDexPair)
  let totalExpected := sellBase + sellKind.fixedLen + route.sellRemaining
  require (¬accounts.length < totalExpected) (arbErr arbBadAccountCount)
  pure { route, buyKind, sellKind, buyBase, sellBase }

/-- The plan of an instruction, as equations and guards. -/
theorem plan_eq_ok {accounts : List AccountInfo} {data : List UInt8} {result : Plan} :
    plan accounts data = .ok result ↔
      data.length = 36 ∧ result.route = .decode data ∧
        result.route.amountIn ≠ 0 ∧ result.route.minProfit ≠ 0 ∧ result.buyBase = 3 ∧
        identifyDex accounts 3 = some result.buyKind ∧
        result.sellBase = 3 + (result.buyKind.fixedLen + result.route.buyRemaining) ∧
        identifyDex accounts result.sellBase = some result.sellKind ∧
        result.buyKind ≠ result.sellKind ∧
        result.sellBase + result.sellKind.fixedLen + result.route.sellRemaining ≤
          accounts.length := by
  rcases result with ⟨route, buyKind, sellKind, buyBase, sellBase⟩
  simp only [plan, parse, bind_eq_ok, require_eq_ok, orFail_eq_ok, pure_eq_ok,
    Plan.mk.injEq, exists_and_left, exists_const, not_or, Nat.not_lt]
  constructor
  · rintro ⟨_, ⟨size, rfl⟩, ⟨amount, profit⟩, _, buy, _, sell, distinct, count, rfl, rfl,
      rfl, rfl, rfl⟩
    exact ⟨size, rfl, amount, profit, rfl, buy, rfl, sell, distinct, count⟩
  · rintro ⟨size, rfl, amount, profit, rfl, buy, rfl, sell, distinct, count⟩
    exact ⟨_, ⟨size, rfl⟩, ⟨amount, profit⟩, _, buy, _, sell, distinct, count, rfl, rfl,
      rfl, rfl, rfl⟩

/-- `validate_dex_section`. -/
def validateDexSection (pda : FindProgramAddress) (accounts : List AccountInfo)
    (kind : DexKind) (base remaining : Nat) : Exec Unit :=
  match kind with
  | .pumpSwap => DexPumpSwap.validateSection pda accounts base remaining
  | .dlmm => DexDlmm.validateSection pda accounts base remaining
  | .cpmm => DexCpmm.validateSection pda accounts base remaining
  | .whirlpool => DexWhirlpool.validateSection pda accounts base remaining

/-- Steps 1 to 5: everything that is checked before a balance is read. -/
def check (pda : FindProgramAddress) (accounts : List AccountInfo) (data : List UInt8) :
    Exec Plan := do
  let plan ← plan accounts data
  let user ← account accounts userIdx
  require (user.isSigner = true) (.error .missingRequiredSignature)
  validateDexSection pda accounts plan.buyKind plan.buyBase plan.route.buyRemaining
  validateDexSection pda accounts plan.sellKind plan.sellBase plan.route.sellRemaining
  pure plan

theorem check_eq_ok {pda : FindProgramAddress} {accounts : List AccountInfo}
    {data : List UInt8} {result : Plan} :
    check pda accounts data = .ok result ↔
      plan accounts data = .ok result ∧
        (∃ user, accounts[0]? = some user ∧ user.isSigner = true) ∧
        validateDexSection pda accounts result.buyKind result.buyBase
          result.route.buyRemaining = .ok () ∧
        validateDexSection pda accounts result.sellKind result.sellBase
          result.route.sellRemaining = .ok () := by
  simp only [check, bind_eq_ok, account_eq_ok, require_eq_ok, pure_eq_ok, exists_and_left,
    exists_const]
  constructor
  · rintro ⟨_, planned, user, userAt, signer, _, buy, _, sell, rfl⟩
    exact ⟨planned, ⟨user, userAt, signer⟩, buy, sell⟩
  · rintro ⟨planned, ⟨user, userAt, signer⟩, buy, sell⟩
    exact ⟨_, planned, user, userAt, signer, _, buy, _, sell, rfl⟩

/-- The CPI error code of each exchange. -/
def cpiFailed : DexKind → Nat
  | .pumpSwap => arbPumpCpiFailed
  | .dlmm => arbDlmmCpiFailed
  | .cpmm => arbCpmmCpiFailed
  | .whirlpool => arbWhirlpoolCpiFailed

/-- The instruction that `execute_buy_leg` invokes. -/
def buyCpi (accounts : List AccountInfo) (kind : DexKind) (base remaining : Nat)
    (amountIn minMemeOut : UInt64) : Exec Instruction :=
  match kind with
  | .pumpSwap =>
      Cpi.PumpSwap.buildBuy accounts base remaining amountIn minMemeOut false none
  | .dlmm =>
      -- the minimum output has no place in this builder's arguments
      Cpi.Dlmm.buildSwap2 accounts base amountIn
        (base + DexDlmm.dlmmTokenXMintOff) (base + DexDlmm.dlmmTokenYMintOff)
        (base + DexDlmm.dlmmTokenXProgOff) (base + DexDlmm.dlmmTokenYProgOff)
        userIdx userSolAtaIdx userMemeAtaIdx remaining
  | .cpmm =>
      Cpi.Cpmm.buildSwap accounts base amountIn minMemeOut userIdx (base + 8) (base + 9)
        userSolAtaIdx userMemeAtaIdx (base + 10) (base + 11) (base + 12)
  | .whirlpool =>
      Cpi.Whirlpool.buildSwap accounts base remaining amountIn minMemeOut true
        (base + DexWhirlpool.whirlpoolTokenProgOff)
        (base + DexWhirlpool.whirlpoolTokenProgOff) userSolAtaIdx userMemeAtaIdx

/-- The instruction that `execute_sell_leg` invokes. -/
def sellCpi (accounts : List AccountInfo) (kind : DexKind) (base remaining : Nat)
    (amountIn minSolOut : UInt64) : Exec Instruction :=
  match kind with
  | .pumpSwap =>
      Cpi.PumpSwap.buildSell accounts base remaining amountIn minSolOut none
  | .dlmm =>
      Cpi.Dlmm.buildSwap2 accounts base amountIn
        (base + DexDlmm.dlmmTokenXMintOff) (base + DexDlmm.dlmmTokenYMintOff)
        (base + DexDlmm.dlmmTokenXProgOff) (base + DexDlmm.dlmmTokenYProgOff)
        userIdx userMemeAtaIdx userSolAtaIdx remaining
  | .cpmm =>
      Cpi.Cpmm.buildSwap accounts base amountIn minSolOut userIdx (base + 8) (base + 9)
        userMemeAtaIdx userSolAtaIdx (base + 10) (base + 11) (base + 12)
  | .whirlpool =>
      Cpi.Whirlpool.buildSwap accounts base remaining amountIn minSolOut false
        (base + DexWhirlpool.whirlpoolTokenProgOff)
        (base + DexWhirlpool.whirlpoolTokenProgOff) userMemeAtaIdx userSolAtaIdx

def buyLeg (accounts : List AccountInfo) (plan : Plan) : Leg where
  build amountIn := buyCpi accounts plan.buyKind plan.buyBase plan.route.buyRemaining
    amountIn plan.route.minIntermediate
  failure := cpiFailed plan.buyKind

/-- The sell leg asks for one lamport at least: profit is checked afterwards. -/
def sellLeg (accounts : List AccountInfo) (plan : Plan) : Leg where
  build amountIn := sellCpi accounts plan.sellKind plan.sellBase plan.route.sellRemaining
    amountIn 1
  failure := cpiFailed plan.sellKind

/-- `orchestrate::handle`. -/
def handle (pda : FindProgramAddress) (buy sell : CpiEffect) (accounts : List AccountInfo)
    (data : List UInt8) (ledger : Ledger) : Exec Receipt := do
  let plan ← check pda accounts data
  settle accounts plan.route.amountIn plan.route.minProfit (buyLeg accounts plan)
    (sellLeg accounts plan) buy sell ledger

end Orchestrate

end AtomicArbitrage.Program

import AtomicArbitrage.Program.Accounting
import AtomicArbitrage.Program.Cpi

/-!
# Settlement of two legs

All three handlers end in the same sequence: snapshot the balances, invoke the first
exchange, sell exactly what arrived, and compare the balances again.  The sequence is
stated once, over two legs, and returns a record of both invocations, so that a
statement can speak about what each exchange was asked and what it did.
-/

namespace AtomicArbitrage.Program

open Outcome Word64

/-- One leg of a route: how its CPI is built from the amount to swap, and the error
code that replaces any failure of that CPI. -/
structure Leg where
  build : UInt64 → Exec Instruction
  failure : Nat

/-- An invocation that succeeded: the instruction and the ledger around it. -/
structure CpiRecord where
  instruction : Instruction
  before : Ledger
  after : Ledger

/-- The two invocations of a route that returned `Ok`. -/
structure Receipt where
  first : CpiRecord
  second : CpiRecord

/-- Build a leg's instruction and invoke it. -/
def Leg.run (leg : Leg) (effect : CpiEffect) (accounts : List AccountInfo)
    (amount : UInt64) (ledger : Ledger) : Exec CpiRecord := do
  let instruction ← leg.build amount
  let after ← withError (arbErr leg.failure) (effect instruction accounts ledger)
  pure { instruction, before := ledger, after }

/-- From the balance snapshots to the post-CPI invariants. -/
def settle (accounts : List AccountInfo) (amountIn minProfit : UInt64) (first second : Leg)
    (firstEffect secondEffect : CpiEffect) (ledger : Ledger) : Exec Receipt := do
  let user ← account accounts userIdx
  let userSolAta ← account accounts userSolAtaIdx
  let preAggregate ← aggregateSolBalance ledger user userSolAta
  let userMemeAta ← account accounts userMemeAtaIdx
  let memeBefore ← readTokenAmount ledger userMemeAta
  let bought ← first.run firstEffect accounts amountIn ledger
  let memeAfterBuy ← readTokenAmount bought.after userMemeAta
  let memeReceived ← orFail (checkedSub memeAfterBuy memeBefore) (arbErr arbNegativeNet)
  require (memeReceived ≠ 0) (arbErr arbZeroAmount)
  let sold ← second.run secondEffect accounts memeReceived bought.after
  let postAggregate ← aggregateSolBalance sold.after user userSolAta
  let netSol ← orFail (checkedSub postAggregate preAggregate) (arbErr arbNegativeNet)
  require (minProfit ≤ netSol) (arbErr arbInsufficientProfit)
  let memeAfter ← readTokenAmount sold.after userMemeAta
  require (memeAfter = memeBefore) (arbErr arbResidualMeme)
  pure { first := bought, second := sold }

theorem Leg.run_eq_ok {leg : Leg} {effect : CpiEffect} {accounts : List AccountInfo}
    {amount : UInt64} {ledger : Ledger} {invocation : CpiRecord} :
    leg.run effect accounts amount ledger = .ok invocation ↔
      leg.build amount = .ok invocation.instruction ∧ invocation.before = ledger ∧
        effect invocation.instruction accounts ledger = .ok invocation.after := by
  rcases invocation with ⟨instruction, before, after⟩
  simp only [Leg.run, bind_eq_ok, withError_eq_ok, pure_eq_ok, CpiRecord.mk.injEq]
  constructor
  · rintro ⟨_, built, _, invoked, rfl, rfl, rfl⟩
    exact ⟨built, rfl, invoked⟩
  · rintro ⟨built, rfl, invoked⟩
    exact ⟨_, built, _, invoked, rfl, rfl, rfl⟩

/-- What a settlement that returned `Ok` has established.  The fields follow the order
of the code; `received` is the amount the second leg was built with. -/
structure Settled (accounts : List AccountInfo) (amountIn minProfit : UInt64)
    (first second : Leg) (firstEffect secondEffect : CpiEffect) (ledger : Ledger)
    (receipt : Receipt) (user userSolAta userMemeAta : AccountInfo) (received : UInt64) :
    Prop where
  userAt : accounts[userIdx]? = some user
  userSolAtaAt : accounts[userSolAtaIdx]? = some userSolAta
  userMemeAtaAt : accounts[userMemeAtaIdx]? = some userMemeAta
  solReadable : 72 ≤ (ledger userSolAta.key).data.length
  memeReadable : 72 ≤ (ledger userMemeAta.key).data.length
  firstBuilt : first.build amountIn = .ok receipt.first.instruction
  firstBefore : receipt.first.before = ledger
  firstInvoked : firstEffect receipt.first.instruction accounts ledger =
    .ok receipt.first.after
  memeReadableAfterBuy : 72 ≤ (receipt.first.after userMemeAta.key).data.length
  bought : (tokenAmount receipt.first.after userMemeAta.key).toNat =
    (tokenAmount ledger userMemeAta.key).toNat + received.toNat
  receivedPos : received ≠ 0
  secondBuilt : second.build received = .ok receipt.second.instruction
  secondBefore : receipt.second.before = receipt.first.after
  secondInvoked : secondEffect receipt.second.instruction accounts receipt.first.after =
    .ok receipt.second.after
  solReadableAfter : 72 ≤ (receipt.second.after userSolAta.key).data.length
  profit : solBalance ledger user.key userSolAta.key + minProfit.toNat ≤
    solBalance receipt.second.after user.key userSolAta.key
  bounded : solBalance receipt.second.after user.key userSolAta.key < 2 ^ 64
  memeReadableAfter : 72 ≤ (receipt.second.after userMemeAta.key).data.length
  restored : tokenAmount receipt.second.after userMemeAta.key =
    tokenAmount ledger userMemeAta.key

section

variable {accounts : List AccountInfo} {amountIn minProfit : UInt64} {first second : Leg}
  {firstEffect secondEffect : CpiEffect} {ledger : Ledger} {receipt : Receipt}

/-- The inversion of a settlement: every guard it passed, as facts about the ledgers. -/
theorem settled_of_settle
    (accepted : settle accounts amountIn minProfit first second firstEffect secondEffect
      ledger = .ok receipt) :
    ∃ user userSolAta userMemeAta received,
      Settled accounts amountIn minProfit first second firstEffect secondEffect ledger
        receipt user userSolAta userMemeAta received := by
  simp only [settle, bind_eq_ok, account_eq_ok, aggregateSolBalance_eq_ok,
    readTokenAmount_eq_ok, Leg.run_eq_ok, orFail_eq_ok, checkedSub_eq_some, require_eq_ok,
    pure_eq_ok] at accepted
  obtain ⟨user, userAt, userSolAta, userSolAtaAt, preAggregate, ⟨solReadable, preBalance⟩,
    userMemeAta, userMemeAtaAt, memeBefore, ⟨memeReadable, rfl⟩,
    bought, ⟨firstBuilt, firstBefore, firstInvoked⟩, memeAfterBuy,
    ⟨memeReadableAfterBuy, rfl⟩, received, boughtAmount, _, receivedPos,
    sold, ⟨secondBuilt, secondBefore, secondInvoked⟩, postAggregate,
    ⟨solReadableAfter, postBalance⟩, netSol, net, _, enough, memeAfter,
    ⟨memeReadableAfter, rfl⟩, _, restored, rfl⟩ := accepted
  have enough : minProfit.toNat ≤ netSol.toNat := UInt64.le_iff_toNat_le.mp enough
  have profit : solBalance ledger user.key userSolAta.key + minProfit.toNat ≤
      solBalance sold.after user.key userSolAta.key := by
    rw [preBalance, postBalance, net]
    omega
  have bounded : solBalance sold.after user.key userSolAta.key < 2 ^ 64 :=
    postBalance ▸ postAggregate.toNat_lt
  exact ⟨user, userSolAta, userMemeAta, received,
    { userAt, userSolAtaAt, userMemeAtaAt, solReadable, memeReadable, firstBuilt
      firstBefore, firstInvoked, memeReadableAfterBuy, bought := boughtAmount, receivedPos
      secondBuilt, secondBefore, secondInvoked, solReadableAfter, profit, bounded
      memeReadableAfter, restored }⟩

/-- Conversely, a run with these properties is accepted. -/
theorem settle_of_settled {user userSolAta userMemeAta : AccountInfo} {received : UInt64}
    (settled : Settled accounts amountIn minProfit first second firstEffect secondEffect
      ledger receipt user userSolAta userMemeAta received) :
    settle accounts amountIn minProfit first second firstEffect secondEffect ledger =
      .ok receipt := by
  have bounded := settled.bounded
  have profit := settled.profit
  -- both aggregates and their difference fit in a word
  obtain ⟨preAggregate, preValue⟩ :
      ∃ word : UInt64, word.toNat = solBalance ledger user.key userSolAta.key :=
    exists_toNat (by omega)
  rcases exists_toNat bounded with ⟨postAggregate, postValue⟩
  obtain ⟨netSol, netValue⟩ :
      ∃ word : UInt64, word.toNat = postAggregate.toNat - preAggregate.toNat :=
    exists_toNat (by omega)
  have net : postAggregate.toNat = preAggregate.toNat + netSol.toNat := by omega
  have enough : minProfit ≤ netSol := UInt64.le_iff_toNat_le.mpr (by omega)
  simp only [settle, bind_eq_ok, account_eq_ok, aggregateSolBalance_eq_ok,
    readTokenAmount_eq_ok, Leg.run_eq_ok, orFail_eq_ok, checkedSub_eq_some, require_eq_ok,
    pure_eq_ok]
  exact ⟨user, settled.userAt, userSolAta, settled.userSolAtaAt, preAggregate,
    ⟨settled.solReadable, preValue.symm⟩, userMemeAta, settled.userMemeAtaAt, _,
    ⟨settled.memeReadable, rfl⟩, receipt.first,
    ⟨settled.firstBuilt, settled.firstBefore, settled.firstInvoked⟩, _,
    ⟨settled.memeReadableAfterBuy, rfl⟩, received, settled.bought, (), settled.receivedPos,
    receipt.second,
    ⟨settled.secondBuilt, settled.secondBefore, settled.secondInvoked⟩, postAggregate,
    ⟨settled.solReadableAfter, postValue.symm⟩, netSol, net, (), enough, _,
    ⟨settled.memeReadableAfter, rfl⟩, (), settled.restored, rfl⟩

end

end AtomicArbitrage.Program

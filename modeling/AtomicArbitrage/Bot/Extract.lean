import AtomicArbitrage.Bot.MintOrder
import AtomicArbitrage.Client.Dlmm
import AtomicArbitrage.Library.Json
import AtomicArbitrage.Program.Cpi

/-!
# Reading pools out of transactions

The listener fetches a transaction as JSON, looks in its inner instructions for a swap of
a decentralised exchange and takes the pool and the two mints from fixed positions of that
swap's accounts.  The account indices run over the static keys of the message followed by
the keys loaded from tables; the extractors know the static keys only.
-/

namespace AtomicArbitrage.Bot

/-! ## The extractors -/

/-- The texts of the static keys; entries of other kinds are passed over. -/
def accountKeysOf (result : Json) : Option (List String) := do
  let transaction ← result.get "transaction"
  let message ← transaction.get "message"
  let accountKeys ← message.get "accountKeys"
  let keys ← accountKeys.asArray
  pure (keys.filterMap fun key => key.asStr.or ((key.get "pubkey").bind Json.asStr))

/-- Where a swap names its pool and two mints. -/
structure SwapPositions where
  pool : ℕ
  mintA : ℕ
  mintB : ℕ

/-- The two mints and the pool of a swap. -/
def readSwap (positions : SwapPositions) (accountKeys : List String) (ix : Json) :
    Option (String × String × String) := do
  let accounts ← ix.get "accounts"
  let items ← accounts.asArray
  let acctIndices := items.filterMap Json.asU64
  let pool ← accountKeys[← acctIndices[positions.pool]?]?
  let mintA ← accountKeys[← acctIndices[positions.mintA]?]?
  let mintB ← accountKeys[← acctIndices[positions.mintB]?]?
  pure (mintA, mintB, pool)

section

variable {Found : Type} (program : String) (read : List String → Json → Option Found)

/-- The body of the loop over instructions: `none` goes on, `some` returns. -/
def visitInstruction (accountKeys : List String) (ix : Json) : Option (Option Found) :=
  match (ix.get "programIdIndex").bind Json.asU64 with
  | none => some none
  | some progIdx =>
      if accountKeys[progIdx]? = some program then some (read accountKeys ix) else none

/-- The body of the loop over the groups of inner instructions. -/
def visitInner (accountKeys : List String) (inner : Json) : Option (Option Found) :=
  match (inner.get "instructions").bind Json.asArray with
  | none => some none
  | some instructions => instructions.findSome? (visitInstruction program read accountKeys)

/-- What the extractors share: the first inner instruction of a program is read. -/
def extractFromTx (resp : Json) : Option Found := do
  let result ← resp.get "result"
  let accountKeys ← accountKeysOf result
  let tail ← result.get "meta"
  let innerInstructions ← tail.get "innerInstructions"
  let inners ← innerInstructions.asArray
  (inners.findSome? (visitInner program read accountKeys)).join

end

/-- Account layout of a DLMM swap, as the extractor has it. -/
def lbPairPositions : SwapPositions := { pool := 0, mintA := 5, mintB := 6 }

/-- `extract_lb_pair_from_tx`, of the response. -/
def extractLbPairFromTx (resp : Json) : Option (String × String × String) :=
  extractFromTx Client.dlmmProgram (readSwap lbPairPositions) resp

/-- Account layout of a CPMM swap, as the extractor has it. -/
def cpmmPositions : SwapPositions := { pool := 3, mintA := 10, mintB := 11 }

/-- `extract_cpmm_pool_from_tx`, of the response. -/
def extractCpmmPoolFromTx (resp : Json) : Option (String × String × String) :=
  extractFromTx Client.cpmmProgram (readSwap cpmmPositions) resp

/-! ## Transactions -/

/-- An inner instruction in the response. -/
structure InnerInstruction where
  programIdIndex : UInt64
  accounts : List UInt64

/-- A fetched transaction: its keys in text form and its inner instructions, grouped by
the instruction that called them. -/
structure FetchedTransaction where
  accountKeys : List String
  loadedWritable : List String
  loadedReadonly : List String
  innerInstructions : List (List InnerInstruction)

namespace InnerInstruction

def render (ix : InnerInstruction) : Json :=
  .object
    [("programIdIndex", .number (.ofNat ix.programIdIndex.toNat)),
     ("accounts", .array (ix.accounts.map fun index => .number (.ofNat index.toNat)))]

theorem get_accounts (ix : InnerInstruction) :
    ix.render.get "accounts" =
      some (.array (ix.accounts.map fun index => .number (.ofNat index.toNat))) := rfl

end InnerInstruction

namespace FetchedTransaction

/-- The response to `getTransaction` under the encoding `json`, less what nobody reads. -/
def response (tx : FetchedTransaction) : Json :=
  .object
    [("result", .object
      [("transaction", .object
        [("message", .object [("accountKeys", .array (tx.accountKeys.map .string))])]),
       ("meta", .object
        [("innerInstructions", .array (tx.innerInstructions.map fun group =>
          .object [("instructions", .array (group.map InnerInstruction.render))])),
         ("loadedAddresses", .object
          [("writable", .array (tx.loadedWritable.map .string)),
           ("readonly", .array (tx.loadedReadonly.map .string))])])])]

/-- The keys that the indices run over. -/
def keys (tx : FetchedTransaction) : List String :=
  tx.accountKeys ++ tx.loadedWritable ++ tx.loadedReadonly

/-- An inner instruction of the transaction is this instruction, compiled. -/
def Carries (tx : FetchedTransaction) (ix : InnerInstruction) (instruction : Instruction) :
    Prop :=
  tx.keys[ix.programIdIndex.toNat]? = some instruction.programId.toBase58 ∧
    ix.accounts.map (fun index => tx.keys[index.toNat]?) =
      instruction.accounts.map fun reference => some reference.pubkey.toBase58

/-- An inner instruction is visibly one of a program. -/
def Names (tx : FetchedTransaction) (program : String) (ix : InnerInstruction) : Prop :=
  tx.accountKeys[ix.programIdIndex.toNat]? = some program

/-- The static key at a position of an instruction. -/
def staticKey (tx : FetchedTransaction) (ix : InnerInstruction) (position : ℕ) :
    Option String :=
  ix.accounts[position]?.bind fun index => tx.accountKeys[index.toNat]?

theorem staticKey_eq (tx : FetchedTransaction) (ix : InnerInstruction) (position : ℕ) :
    tx.staticKey ix position =
      (ix.accounts.map UInt64.toNat)[position]?.bind fun index => tx.accountKeys[index]? := by
  rw [staticKey, List.getElem?_map, Option.bind_map]
  rfl

end FetchedTransaction

/-! ## Reading a response -/

theorem indices_render (indices : List UInt64) :
    (indices.map fun index => Json.number (.ofNat index.toNat)).filterMap Json.asU64 =
      indices.map UInt64.toNat := by
  rw [List.filterMap_map, ← List.filterMap_eq_map]
  apply List.filterMap_congr
  intro index _
  rw [Function.comp_apply, Function.comp_apply, Json.asU64_toNat]

theorem accountKeys_render (keys : List String) :
    (keys.map Json.string).filterMap
      (fun key => key.asStr.or ((key.get "pubkey").bind Json.asStr)) = keys := by
  rw [List.filterMap_map]
  exact List.filterMap_some

/-- A search through groups, one after the other, is a search through all. -/
theorem findSome?_flatten {Item Found : Type*} (groups : List (List Item))
    (visit : Item → Option Found) :
    groups.flatten.findSome? visit = groups.findSome? fun group => group.findSome? visit := by
  induction groups with
  | nil => rfl
  | cons group groups ih =>
      rw [List.flatten_cons, List.findSome?_append, ih, List.findSome?_cons]
      cases group.findSome? visit with
      | none => rfl
      | some found => rfl

section

variable {tx : FetchedTransaction} {program : String} {Found : Type}
  {read : List String → Json → Option Found}

theorem visitInstruction_render (ix : InnerInstruction) :
    visitInstruction program read tx.accountKeys ix.render =
      if tx.accountKeys[ix.programIdIndex.toNat]? = some program then
        some (read tx.accountKeys ix.render)
      else none := by
  have field : ix.render.get "programIdIndex" =
      some (.number (.ofNat ix.programIdIndex.toNat)) := rfl
  rw [visitInstruction, field, Option.bind_some, Json.asU64_toNat]

theorem visitInner_render (group : List InnerInstruction) :
    visitInner program read tx.accountKeys
        (.object [("instructions", .array (group.map InnerInstruction.render))]) =
      group.findSome? fun ix =>
        if tx.accountKeys[ix.programIdIndex.toNat]? = some program then
          some (read tx.accountKeys ix.render)
        else none := by
  have instructions : visitInner program read tx.accountKeys
      (.object [("instructions", .array (group.map InnerInstruction.render))]) =
        (group.map InnerInstruction.render).findSome?
          (visitInstruction program read tx.accountKeys) := rfl
  have body : (visitInstruction program read tx.accountKeys ∘ InnerInstruction.render) =
      fun ix => if tx.accountKeys[ix.programIdIndex.toNat]? = some program then
        some (read tx.accountKeys ix.render)
      else none := by
    funext ix
    rw [Function.comp_apply, visitInstruction_render]
  rw [instructions, List.findSome?_map, body]

/-- An extractor visits the inner instructions of all groups in order. -/
theorem extractFromTx_response (tx : FetchedTransaction) :
    extractFromTx program read tx.response =
      (tx.innerInstructions.flatten.findSome? fun ix =>
        if tx.accountKeys[ix.programIdIndex.toNat]? = some program then
          some (read tx.accountKeys ix.render)
        else none).join := by
  have visited : extractFromTx program read tx.response =
      ((tx.innerInstructions.map fun group =>
        Json.object [("instructions", .array (group.map InnerInstruction.render))]).findSome?
          (visitInner program read
            ((tx.accountKeys.map Json.string).filterMap fun key =>
              key.asStr.or ((key.get "pubkey").bind Json.asStr)))).join := rfl
  rw [visited, accountKeys_render, findSome?_flatten, List.findSome?_map]
  congr 2
  funext group
  rw [Function.comp_apply, visitInner_render]

end

/-! ## What the extractors recover -/

namespace FetchedTransaction

variable (tx : FetchedTransaction)

/-- An instruction is the first one that is visibly of the program. -/
def Foremost (program : String) (front : List InnerInstruction) (ix : InnerInstruction) :
    Prop :=
  (∀ other ∈ front, ¬tx.Names program other) ∧ tx.Names program ix

/-- The accounts that an extractor reads are static keys. -/
def Static (positions : SwapPositions) (ix : InnerInstruction) : Prop :=
  ∀ position ∈ [positions.pool, positions.mintA, positions.mintB],
    ∀ index ∈ ix.accounts[position]?, index.toNat < tx.accountKeys.length

/-- At the positions that an extractor reads, an instruction has a pool and its mints. -/
def ReadsAs (positions : SwapPositions) (ix : InnerInstruction) (pool x y : Pubkey) : Prop :=
  tx.staticKey ix positions.pool = some pool.toBase58 ∧
    ((tx.staticKey ix positions.mintA = some x.toBase58 ∧
        tx.staticKey ix positions.mintB = some y.toBase58) ∨
      (tx.staticKey ix positions.mintA = some y.toBase58 ∧
        tx.staticKey ix positions.mintB = some x.toBase58))

/-- Another instruction than the one behind `before` is foremost, and reads as the pool and
its mints. -/
def OtherReadsAs (program : String) (positions : SwapPositions)
    (before : List InnerInstruction) (pool x y : Pubkey) : Prop :=
  ∃ front other back, tx.innerInstructions.flatten = front ++ other :: back ∧
    front.length ≠ before.length ∧ tx.Foremost program front other ∧
    tx.ReadsAs positions other pool x y

end FetchedTransaction

/-- An extractor has returned this pool with its mints, in some order. -/
def Recovers (result : Option (String × String × String)) (pool x y : Pubkey) : Prop :=
  result = some (x.toBase58, y.toBase58, pool.toBase58) ∨
    result = some (y.toBase58, x.toBase58, pool.toBase58)

section

variable {tx : FetchedTransaction} {program : String} {positions : SwapPositions}
  {pool x y : Pubkey}

/-- The pool and the mints that an instruction has at these positions. -/
def FetchedTransaction.read (tx : FetchedTransaction) (positions : SwapPositions)
    (ix : InnerInstruction) : Option (String × String × String) := do
  let pool ← tx.staticKey ix positions.pool
  let mintA ← tx.staticKey ix positions.mintA
  let mintB ← tx.staticKey ix positions.mintB
  pure (mintA, mintB, pool)

theorem readSwap_render (ix : InnerInstruction) :
    readSwap positions tx.accountKeys ix.render = tx.read positions ix := by
  simp only [readSwap, FetchedTransaction.read, InnerInstruction.get_accounts,
    FetchedTransaction.staticKey_eq, Json.asArray_array, indices_render,
    Option.bind_eq_bind, Option.bind_some, Option.bind_assoc]

theorem read_eq_some {ix : InnerInstruction} {mintA mintB pool : String} :
    tx.read positions ix = some (mintA, mintB, pool) ↔
      tx.staticKey ix positions.pool = some pool ∧
        tx.staticKey ix positions.mintA = some mintA ∧
        tx.staticKey ix positions.mintB = some mintB := by
  simp only [FetchedTransaction.read, Option.bind_eq_bind, Option.bind_eq_some_iff,
    Option.pure_def, Option.some_inj, Prod.mk.injEq]
  constructor
  · intro found
    rcases found with ⟨pool, poolAt, mintA, mintAAt, mintB, mintBAt, rfl, rfl, rfl⟩
    exact ⟨poolAt, mintAAt, mintBAt⟩
  · intro found
    rcases found with ⟨poolAt, mintAAt, mintBAt⟩
    exact ⟨_, poolAt, _, mintAAt, _, mintBAt, rfl, rfl, rfl⟩

/-- The foremost instruction of the program decides the result. -/
theorem extractFromTx_eq_some {found : String × String × String} :
    extractFromTx program (readSwap positions) tx.response = some found ↔
      ∃ front ix back, tx.innerInstructions.flatten = front ++ ix :: back ∧
        tx.Foremost program front ix ∧ tx.read positions ix = some found := by
  rw [extractFromTx_response, Option.join_eq_some_iff, List.findSome?_eq_some_iff]
  simp only [readSwap_render]
  constructor
  · intro visited
    rcases visited with ⟨front, ix, back, split, hit, passed⟩
    split at hit
    · next names =>
        refine ⟨front, ix, back, split, ⟨?_, names⟩, Option.some_inj.mp hit⟩
        intro other inside names'
        exact absurd ((passed other inside).symm.trans (if_pos names')) nofun
    · exact absurd hit nofun
  · intro foremost
    rcases foremost with ⟨front, ix, back, split, ⟨passed, names⟩, read⟩
    refine ⟨front, ix, back, split, ?_, ?_⟩
    · exact (if_pos names).trans (congrArg some read)
    · intro other inside
      exact if_neg (passed other inside)

theorem recovers_iff :
    Recovers (extractFromTx program (readSwap positions) tx.response) pool x y ↔
      ∃ front ix back, tx.innerInstructions.flatten = front ++ ix :: back ∧
        tx.Foremost program front ix ∧ tx.ReadsAs positions ix pool x y := by
  simp only [Recovers, FetchedTransaction.ReadsAs]
  simp only [extractFromTx_eq_some, read_eq_some]
  constructor
  · intro found
    rcases found with
      ⟨front, ix, back, split, foremost, poolAt, mints⟩ |
      ⟨front, ix, back, split, foremost, poolAt, mints⟩
    · exact ⟨front, ix, back, split, foremost, poolAt, .inl mints⟩
    · exact ⟨front, ix, back, split, foremost, poolAt, .inr mints⟩
  · intro found
    rcases found with ⟨front, ix, back, split, foremost, poolAt, mints | mints⟩
    · exact .inl ⟨front, ix, back, split, foremost, poolAt, mints⟩
    · exact .inr ⟨front, ix, back, split, foremost, poolAt, mints⟩

/-- Of a compiled instruction, a static index shows the key of its account. -/
theorem staticKey_eq_some {ix : InnerInstruction} {instruction : Instruction}
    (carries : tx.Carries ix instruction) {position : ℕ} {reference : AccountMeta}
    (held : instruction.accounts[position]? = some reference) {text : String} :
    tx.staticKey ix position = some text ↔
      (∀ index ∈ ix.accounts[position]?, index.toNat < tx.accountKeys.length) ∧
        reference.pubkey.toBase58 = text := by
  have compiled := congrArg (fun keys => keys[position]?) carries.2
  simp only [List.getElem?_map, held, Option.map_some] at compiled
  rcases Option.map_eq_some_iff.mp compiled with ⟨index, indexAt, key⟩
  rw [FetchedTransaction.staticKey]
  simp only [indexAt, Option.bind_some, Option.mem_some_iff, forall_eq']
  constructor
  · intro found
    have inside : index.toNat < tx.accountKeys.length :=
      (List.getElem?_eq_some_iff.mp found).1
    refine ⟨inside, ?_⟩
    rw [FetchedTransaction.keys, List.append_assoc, List.getElem?_append_left inside, found,
      Option.some_inj] at key
    exact key.symm
  · intro both
    rcases both with ⟨inside, rfl⟩
    rwa [FetchedTransaction.keys, List.append_assoc, List.getElem?_append_left inside] at key

/-- An instruction with these accounts at the extractor's positions is recovered exactly
when it is foremost, its accounts are static and the accounts are the mints, or when
another instruction stands in for it. -/
theorem recovers_carried_iff {before after : List InnerInstruction} {ix : InnerInstruction}
    (split : tx.innerInstructions.flatten = before ++ ix :: after)
    {instruction : Instruction} (carries : tx.Carries ix instruction)
    {poolMeta aMeta bMeta : AccountMeta}
    (poolAt : instruction.accounts[positions.pool]? = some poolMeta)
    (aAt : instruction.accounts[positions.mintA]? = some aMeta)
    (bAt : instruction.accounts[positions.mintB]? = some bMeta) (x y : Pubkey) :
    Recovers (extractFromTx program (readSwap positions) tx.response) poolMeta.pubkey x y ↔
      (tx.Foremost program before ix ∧ tx.Static positions ix ∧
        ((aMeta.pubkey = x ∧ bMeta.pubkey = y) ∨ (aMeta.pubkey = y ∧ bMeta.pubkey = x))) ∨
      tx.OtherReadsAs program positions before poolMeta.pubkey x y := by
  have own : tx.ReadsAs positions ix poolMeta.pubkey x y ↔
      tx.Static positions ix ∧
        ((aMeta.pubkey = x ∧ bMeta.pubkey = y) ∨ (aMeta.pubkey = y ∧ bMeta.pubkey = x)) := by
    simp only [FetchedTransaction.ReadsAs, FetchedTransaction.Static,
      staticKey_eq_some carries poolAt, staticKey_eq_some carries aAt,
      staticKey_eq_some carries bAt, Pubkey.toBase58_injective.eq_iff, List.forall_mem_cons,
      List.not_mem_nil, false_implies, implies_true, and_true]
    tauto
  rw [recovers_iff]
  constructor
  · intro found
    rcases found with ⟨front, other, back, split', foremost, reads⟩
    by_cases width : front.length = before.length
    · rcases List.append_inj (split'.symm.trans split) width with ⟨rfl, tail⟩
      rcases List.cons.inj tail with ⟨rfl, _⟩
      exact .inl ⟨foremost, own.mp reads⟩
    · exact .inr ⟨front, other, back, split', width, foremost, reads⟩
  · intro condition
    rcases condition with ⟨foremost, both⟩ | ⟨front, other, back, split', _, foremost, reads⟩
    · exact ⟨before, ix, after, split, foremost, own.mpr both⟩
    · exact ⟨front, other, back, split', foremost, reads⟩

end

/-! ## The builders -/

/-- A DLMM `swap2` that the repository builds, with its pool, the user's account that
receives the output, and its two mints. -/
inductive DlmmSwap : Instruction → (lbPair userTokenOut xMint yMint : Pubkey) → Prop where
  | client {user lbPair : Pubkey} {binArrays : List Pubkey}
      {reserveX reserveY userTokenIn userTokenOut tokenXMint tokenYMint oracle
        eventAuthority : Pubkey} {amountIn minAmountOut : UInt64}
      {tokenXProgram tokenYProgram memoProg eventProgram : Pubkey}
      {binArrayBitmapExtension hostFeeIn : Option Pubkey} :
      DlmmSwap
        (Client.buildDlmmSwap2Ix user lbPair binArrays reserveX reserveY userTokenIn
          userTokenOut tokenXMint tokenYMint oracle eventAuthority amountIn minAmountOut
          tokenXProgram tokenYProgram memoProg eventProgram binArrayBitmapExtension hostFeeIn)
        lbPair userTokenOut tokenXMint tokenYMint
  | program {accounts : List AccountInfo} {dlmmBase : ℕ} {amountIn : UInt64}
      {tokenXMintIdx tokenYMintIdx tokenXProgramIdx tokenYProgramIdx : ℕ}
      {userIdx userTokenInIdx userTokenOutIdx binArrayCount : ℕ} {instruction : Instruction}
      (built : Program.Cpi.Dlmm.buildSwap2 accounts dlmmBase amountIn tokenXMintIdx
        tokenYMintIdx tokenXProgramIdx tokenYProgramIdx userIdx userTokenInIdx
        userTokenOutIdx binArrayCount = .ok instruction)
      {lbPair userTokenOut xMint yMint : AccountInfo}
      (lbPairAt : accounts[dlmmBase + Program.dlmmLbPairRel]? = some lbPair)
      (userTokenOutAt : accounts[userTokenOutIdx]? = some userTokenOut)
      (xMintAt : accounts[tokenXMintIdx]? = some xMint)
      (yMintAt : accounts[tokenYMintIdx]? = some yMint) :
      DlmmSwap instruction lbPair.key userTokenOut.key xMint.key yMint.key

/-- A CPMM swap that the program builds, with its pool, the token programs and the mints
of its input and output. -/
inductive CpmmSwap : Instruction →
    (poolState inputProgram outputProgram inputMint outputMint : Pubkey) → Prop where
  | program {accounts : List AccountInfo} {cpmmBase : ℕ} {amountIn minAmountOut : UInt64}
      {payerIdx inputMintIdx outputMintIdx inputAtaIdx outputAtaIdx inputTokenProgIdx
        outputTokenProgIdx memoProgramIdx : ℕ} {instruction : Instruction}
      (built : Program.Cpi.Cpmm.buildSwap accounts cpmmBase amountIn minAmountOut payerIdx
        inputMintIdx outputMintIdx inputAtaIdx outputAtaIdx inputTokenProgIdx
        outputTokenProgIdx memoProgramIdx = .ok instruction)
      {poolState inputProgram outputProgram inputMint outputMint : AccountInfo}
      (poolStateAt : accounts[cpmmBase + 3]? = some poolState)
      (inputProgramAt : accounts[inputTokenProgIdx]? = some inputProgram)
      (outputProgramAt : accounts[outputTokenProgIdx]? = some outputProgram)
      (inputMintAt : accounts[inputMintIdx]? = some inputMint)
      (outputMintAt : accounts[outputMintIdx]? = some outputMint) :
      CpmmSwap instruction poolState.key inputProgram.key outputProgram.key inputMint.key
        outputMint.key

/-- An account of an instruction has this address. -/
def AccountAt (instruction : Instruction) (position : ℕ) (key : Pubkey) : Prop :=
  ∃ reference, instruction.accounts[position]? = some reference ∧ reference.pubkey = key

/-- The reference that an on-chain builder puts in a slot is to the account of the slot. -/
theorem pubkey_of_metas {accounts : List AccountInfo} {slots : List (ℕ × Bool)}
    {references : List AccountMeta} (built : Program.Cpi.metas accounts slots = .ok references)
    {position : ℕ} {slot : ℕ × Bool} (entry : slots[position]? = some slot)
    {info : AccountInfo} (held : accounts[slot.1]? = some info) :
    ∃ reference, references[position]? = some reference ∧ reference.pubkey = info.key := by
  rcases Program.Cpi.metas_getElem? built position slot entry with ⟨other, heldOther, placed⟩
  rw [held, Option.some_inj] at heldOther
  subst heldOther
  exact ⟨_, placed, Program.Cpi.asMeta_pubkey info slot.2⟩

namespace DlmmSwap

/-- Behind the pool stands the user's output account where the extractor reads a mint. -/
theorem accounts {instruction : Instruction} {lbPair userTokenOut xMint yMint : Pubkey}
    (swap : DlmmSwap instruction lbPair userTokenOut xMint yMint) :
    AccountAt instruction lbPairPositions.pool lbPair ∧
      AccountAt instruction lbPairPositions.mintA userTokenOut ∧
      AccountAt instruction lbPairPositions.mintB xMint := by
  cases swap with
  | client => exact ⟨⟨_, rfl, rfl⟩, ⟨_, rfl, rfl⟩, ⟨_, rfl, rfl⟩⟩
  | program built lbPairAt userTokenOutAt xMintAt yMintAt =>
      simp only [Program.Cpi.Dlmm.buildSwap2, Outcome.bind_eq_ok, Outcome.pure_eq_ok] at built
      rcases built with ⟨fixed, fixedBuilt, bins, _, _, _, rfl⟩
      have width := Program.Cpi.metas_length fixedBuilt
      have front {position : ℕ} (inside : position < 16) :
          (fixed ++ bins)[position]? = fixed[position]? :=
        List.getElem?_append_left (by rw [width]; exact inside)
      simp only [AccountAt]
      simp only [lbPairPositions, front, Nat.reduceLT]
      exact ⟨pubkey_of_metas fixedBuilt rfl lbPairAt,
        pubkey_of_metas fixedBuilt rfl userTokenOutAt, pubkey_of_metas fixedBuilt rfl xMintAt⟩

end DlmmSwap

namespace CpmmSwap

/-- The token programs stand where the extractor reads the mints. -/
theorem accounts {instruction : Instruction}
    {poolState inputProgram outputProgram inputMint outputMint : Pubkey}
    (swap : CpmmSwap instruction poolState inputProgram outputProgram inputMint outputMint) :
    AccountAt instruction cpmmPositions.pool poolState ∧
      AccountAt instruction cpmmPositions.mintA inputProgram ∧
      AccountAt instruction cpmmPositions.mintB outputProgram := by
  cases swap with
  | program built poolStateAt inputProgramAt outputProgramAt _ _ =>
      simp only [Program.Cpi.Cpmm.buildSwap, Outcome.bind_eq_ok, Outcome.pure_eq_ok] at built
      rcases built with ⟨references, referencesBuilt, _, _, rfl⟩
      exact ⟨pubkey_of_metas referencesBuilt rfl poolStateAt,
        pubkey_of_metas referencesBuilt rfl inputProgramAt,
        pubkey_of_metas referencesBuilt rfl outputProgramAt⟩

end CpmmSwap

section

variable {tx : FetchedTransaction} {before after : List InnerInstruction}
  {ix : InnerInstruction} (split : tx.innerInstructions.flatten = before ++ ix :: after)
include split

theorem DlmmSwap.recovers_iff {instruction : Instruction}
    {lbPair userTokenOut xMint yMint : Pubkey}
    (swap : DlmmSwap instruction lbPair userTokenOut xMint yMint)
    (carries : tx.Carries ix instruction) :
    Recovers (extractLbPairFromTx tx.response) lbPair xMint yMint ↔
      (tx.Foremost Client.dlmmProgram before ix ∧ tx.Static lbPairPositions ix ∧
        userTokenOut = yMint) ∨
      tx.OtherReadsAs Client.dlmmProgram lbPairPositions before lbPair xMint yMint := by
  rcases swap.accounts with ⟨⟨pool, poolAt, rfl⟩, ⟨out, outAt, rfl⟩, ⟨x, xAt, rfl⟩⟩
  have mints : (out.pubkey = x.pubkey ∧ x.pubkey = yMint) ∨
      (out.pubkey = yMint ∧ x.pubkey = x.pubkey) ↔ out.pubkey = yMint := by
    constructor
    · intro either
      rcases either with ⟨first, second⟩ | ⟨first, _⟩
      · exact first.trans second
      · exact first
    · intro same
      exact .inr ⟨same, rfl⟩
  rw [← mints]
  exact recovers_carried_iff split carries poolAt outAt xAt x.pubkey yMint

theorem CpmmSwap.recovers_iff {instruction : Instruction}
    {poolState inputProgram outputProgram inputMint outputMint : Pubkey}
    (swap : CpmmSwap instruction poolState inputProgram outputProgram inputMint outputMint)
    (carries : tx.Carries ix instruction) :
    Recovers (extractCpmmPoolFromTx tx.response) poolState inputMint outputMint ↔
      (tx.Foremost Client.cpmmProgram before ix ∧ tx.Static cpmmPositions ix ∧
        ((inputProgram = inputMint ∧ outputProgram = outputMint) ∨
          (inputProgram = outputMint ∧ outputProgram = inputMint))) ∨
      tx.OtherReadsAs Client.cpmmProgram cpmmPositions before poolState inputMint
        outputMint := by
  rcases swap.accounts with ⟨⟨pool, poolAt, rfl⟩, ⟨input, inputAt, rfl⟩,
    ⟨output, outputAt, rfl⟩⟩
  exact recovers_carried_iff split carries poolAt inputAt outputAt inputMint outputMint

end

/-- The extractors recover a swap that the repository builds exactly when it is the
foremost one, its accounts are static and, for a DLMM swap, the user's output account is
the mint of Y, for a CPMM swap, the token programs are the mints; or when another
instruction stands in for it. -/
theorem extract_recovers_iff {tx : FetchedTransaction} {before after : List InnerInstruction}
    {ix : InnerInstruction} (split : tx.innerInstructions.flatten = before ++ ix :: after) :
    (∀ instruction lbPair userTokenOut xMint yMint,
      DlmmSwap instruction lbPair userTokenOut xMint yMint → tx.Carries ix instruction →
        (Recovers (extractLbPairFromTx tx.response) lbPair xMint yMint ↔
          (tx.Foremost Client.dlmmProgram before ix ∧ tx.Static lbPairPositions ix ∧
            userTokenOut = yMint) ∨
          tx.OtherReadsAs Client.dlmmProgram lbPairPositions before lbPair xMint yMint)) ∧
      ∀ instruction poolState inputProgram outputProgram inputMint outputMint,
        CpmmSwap instruction poolState inputProgram outputProgram inputMint outputMint →
          tx.Carries ix instruction →
          (Recovers (extractCpmmPoolFromTx tx.response) poolState inputMint outputMint ↔
            (tx.Foremost Client.cpmmProgram before ix ∧ tx.Static cpmmPositions ix ∧
              ((inputProgram = inputMint ∧ outputProgram = outputMint) ∨
                (inputProgram = outputMint ∧ outputProgram = inputMint))) ∨
            tx.OtherReadsAs Client.cpmmProgram cpmmPositions before poolState inputMint
              outputMint) := by
  constructor
  · intro _ _ _ _ _ swap carries
    exact swap.recovers_iff split carries
  · intro _ _ _ _ _ _ swap carries
    exact swap.recovers_iff split carries

/-! ## A single swap -/

/-- No other instruction stands in for the only one. -/
theorem not_otherReadsAs {tx : FetchedTransaction} {ix : InnerInstruction}
    (alone : tx.innerInstructions = [[ix]]) {program : String} {positions : SwapPositions}
    {pool x y : Pubkey} : ¬tx.OtherReadsAs program positions [] pool x y := by
  intro other
  rcases other with ⟨front, _, _, split, width, _⟩
  rw [alone, List.flatten_singleton] at split
  have lengths := congrArg List.length split
  rw [List.length_singleton, List.length_append, List.length_cons] at lengths
  apply width
  rw [List.length_nil]
  omega

/-- A DLMM swap between sixteen accounts. -/
def sampleDlmmSwap : Instruction :=
  Client.buildDlmmSwap2Ix (.ofNat 1) (.ofNat 2) [] (.ofNat 3) (.ofNat 4) (.ofNat 5)
    (.ofNat 6) (.ofNat 7) (.ofNat 8) (.ofNat 9) (.ofNat 10) 1000 900 (.ofNat 11) (.ofNat 11)
    (.ofNat 12) (.ofNat 13) none none

/-- The swap, compiled against its program and thirteen addresses. -/
def sampleDlmmIx : InnerInstruction where
  programIdIndex := 0
  accounts := [2, 0, 3, 4, 5, 6, 7, 8, 9, 0, 1, 11, 11, 12, 10, 13]

def sampleDlmmTx : FetchedTransaction where
  accountKeys := (Pubkey.ofLiteral Client.dlmmProgram).toBase58 ::
    (List.range 13).map fun n => (Pubkey.ofNat (n + 1)).toBase58
  loadedWritable := []
  loadedReadonly := []
  innerInstructions := [[sampleDlmmIx]]

theorem sampleDlmmTx_carries : sampleDlmmTx.Carries sampleDlmmIx sampleDlmmSwap :=
  ⟨rfl, rfl⟩

/-- The accounts of a CPMM swap by the program. -/
def sampleCpmmAccounts : List AccountInfo :=
  (List.range 16).map fun n => { (default : AccountInfo) with key := .ofNat n }

def sampleCpmmIx : InnerInstruction where
  programIdIndex := 0
  accounts := [8, 1, 2, 3, 11, 12, 6, 7, 9, 10, 13, 14, 15]

def sampleCpmmTx : FetchedTransaction where
  accountKeys := (List.range 16).map fun n => (Pubkey.ofNat n).toBase58
  loadedWritable := []
  loadedReadonly := []
  innerInstructions := [[sampleCpmmIx]]

theorem sampleCpmmTx_carries :
    ∃ instruction, Program.Cpi.Cpmm.buildSwap sampleCpmmAccounts 0 5 4 8 9 10 11 12 13 14 15 =
      .ok instruction ∧ sampleCpmmTx.Carries sampleCpmmIx instruction :=
  ⟨_, rfl, rfl, rfl⟩

/-- Neither a DLMM nor a CPMM swap between distinct accounts is recovered, alone as it
is. -/
theorem extract_recovers_iff_sample :
    ¬Recovers (extractLbPairFromTx sampleDlmmTx.response) (.ofNat 2) (.ofNat 7) (.ofNat 8) ∧
      ¬Recovers (extractCpmmPoolFromTx sampleCpmmTx.response) (.ofNat 3) (.ofNat 9)
        (.ofNat 10) := by
  constructor
  · rw [(@extract_recovers_iff sampleDlmmTx [] [] sampleDlmmIx rfl).1 _ _ _ _ _ .client
      sampleDlmmTx_carries]
    intro condition
    rcases condition with ⟨_, _, mints⟩ | other
    · exact absurd mints (by decide +kernel)
    · exact not_otherReadsAs rfl other
  · rcases sampleCpmmTx_carries with ⟨instruction, built, carries⟩
    have swap : CpmmSwap instruction (.ofNat 3) (.ofNat 13) (.ofNat 14) (.ofNat 9)
        (.ofNat 10) := .program built rfl rfl rfl rfl rfl
    rw [(@extract_recovers_iff sampleCpmmTx [] [] sampleCpmmIx rfl).2 _ _ _ _ _ _ swap carries]
    intro condition
    rcases condition with ⟨_, _, mints⟩ | other
    · exact absurd mints (by decide +kernel)
    · exact not_otherReadsAs rfl other

/-- The extractor of DLMM swaps does not undo the builder. -/
theorem extractLbPair_not_inverse :
    ¬∀ (tx : FetchedTransaction) (ix : InnerInstruction), ix ∈ tx.innerInstructions.flatten →
      ∀ instruction lbPair userTokenOut xMint yMint,
        DlmmSwap instruction lbPair userTokenOut xMint yMint → tx.Carries ix instruction →
          Recovers (extractLbPairFromTx tx.response) lbPair xMint yMint := by
  intro inverse
  have recovered := inverse sampleDlmmTx sampleDlmmIx (.head _) sampleDlmmSwap (.ofNat 2)
    (.ofNat 6) (.ofNat 7) (.ofNat 8) .client sampleDlmmTx_carries
  have sample : DlmmSwap sampleDlmmSwap (.ofNat 2) (.ofNat 6) (.ofNat 7) (.ofNat 8) := .client
  have split : sampleDlmmTx.innerInstructions.flatten = [] ++ sampleDlmmIx :: [] := rfl
  rcases (sample.recovers_iff split sampleDlmmTx_carries).mp recovered with
    ⟨_, _, mints⟩ | other
  · exact absurd mints (by decide +kernel)
  · exact not_otherReadsAs rfl other

end AtomicArbitrage.Bot

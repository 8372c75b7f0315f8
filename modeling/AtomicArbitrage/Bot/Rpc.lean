import AtomicArbitrage.Library.Word64
import AtomicArbitrage.Solana.Base58

/-!
# Reading accounts

The fetchers ask a node for accounts and read fixed offsets of their data.
-/

namespace AtomicArbitrage.Bot

/-- An account as a node returns it. -/
structure RpcAccount where
  owner : Pubkey
  data : List UInt8
deriving DecidableEq

/-- The requests of the client; `none` is a request that fails. -/
structure Rpc where
  getAccount : Pubkey → Option RpcAccount
  getMultipleAccounts : List Pubkey → Option (List (Option RpcAccount))

/-- The accounts of a cluster. -/
abbrev Chain := Pubkey → Option RpcAccount

/-- A node that answers every request from these accounts. -/
def Rpc.ofChain (chain : Chain) : Rpc where
  getAccount := chain
  getMultipleAccounts keys := some (keys.map chain)

/-- What a node answers, if it answers, is what the chain has. -/
structure AnswersFrom (rpc : Rpc) (chain : Chain) : Prop where
  account : ∀ key account, rpc.getAccount key = some account → chain key = some account
  accounts : ∀ keys accounts, rpc.getMultipleAccounts keys = some accounts →
    accounts = keys.map chain

theorem answersFrom_ofChain (chain : Chain) : AnswersFrom (.ofChain chain) chain where
  account _ _ answered := answered
  accounts _ _ answered := (Option.some_inj.mp answered).symm

/-- A field of `width` bytes.  The slice would panic outside the data; every caller has
checked the length before. -/
def slice? (data : List UInt8) (offset width : ℕ) : Option (List UInt8) :=
  if offset + width ≤ data.length then some ((data.drop offset).take width) else none

/-- The address in a field. -/
def readKey (data : List UInt8) (offset : ℕ) : Option Pubkey := do
  let bytes ← slice? data offset 32
  if size : bytes.length = 32 then some ⟨bytes, size⟩ else none

/-- `read_pubkey`: the address in a field, as text. -/
def readPubkey (data : List UInt8) (offset : ℕ) : Option String :=
  (readKey data offset).map Pubkey.toBase58

/-- `from_le_bytes` of a field. -/
def readUnsigned (data : List UInt8) (offset width : ℕ) : Option ℕ :=
  (slice? data offset width).map Word64.decode

/-- `i32::from_le_bytes` of a field. -/
def readI32 (data : List UInt8) (offset : ℕ) : Option ℤ :=
  (readUnsigned data offset 4).map fun value =>
    if value < 2 ^ 31 then (value : ℤ) else (value : ℤ) - 2 ^ 32

/-- `parse_token_amount`. -/
def parseTokenAmount (data : List UInt8) : Option UInt64 :=
  if data.length < 72 then none else some (Word64.readAt data 64)

/-- The balances of two vaults: an account that is missing or too short counts as empty,
and so do both when the request fails. -/
def vaultBalances (rpc : Rpc) (vault0 vault1 : Pubkey) : UInt64 × UInt64 :=
  match rpc.getMultipleAccounts [vault0, vault1] with
  | some accts =>
      let balanceAt (position : ℕ) : UInt64 :=
        (accts[position]?.join.bind fun account => parseTokenAmount account.data).getD 0
      (balanceAt 0, balanceAt 1)
  | none => (0, 0)

/-- The balance of a vault. -/
def Chain.balance (chain : Chain) (vault : Pubkey) : UInt64 :=
  ((chain vault).bind fun account => parseTokenAmount account.data).getD 0

@[simp] theorem vaultBalances_ofChain (chain : Chain) (vault0 vault1 : Pubkey) :
    vaultBalances (.ofChain chain) vault0 vault1 =
      (chain.balance vault0, chain.balance vault1) := rfl

/-- The balances that are read are those of the chain where the request is answered, or where
there is nothing to read. -/
theorem vaultBalances_eq_iff {rpc : Rpc} {chain : Chain} (answers : AnswersFrom rpc chain)
    (vault0 vault1 : Pubkey) :
    vaultBalances rpc vault0 vault1 = (chain.balance vault0, chain.balance vault1) ↔
      (rpc.getMultipleAccounts [vault0, vault1]).isSome = true ∨
        (chain.balance vault0 = 0 ∧ chain.balance vault1 = 0) := by
  rw [vaultBalances]
  cases answered : rpc.getMultipleAccounts [vault0, vault1] with
  | none => simp [eq_comm]
  | some accounts =>
      rw [answers.accounts _ _ answered]
      exact iff_of_true rfl (.inl rfl)

theorem slice?_of_le {data : List UInt8} {offset width : ℕ}
    (inside : offset + width ≤ data.length) :
    slice? data offset width = some ((data.drop offset).take width) :=
  if_pos inside

/-- A field inside the data holds an address. -/
theorem exists_readKey {data : List UInt8} {offset : ℕ} (inside : offset + 32 ≤ data.length) :
    ∃ key, readKey data offset = some key ∧ key.bytes = (data.drop offset).take 32 := by
  have size : ((data.drop offset).take 32).length = 32 := by
    rw [List.length_take, List.length_drop]
    omega
  refine ⟨⟨_, size⟩, ?_, rfl⟩
  rw [readKey, slice?_of_le inside]
  exact dif_pos size

theorem exists_readUnsigned {data : List UInt8} {offset width : ℕ}
    (inside : offset + width ≤ data.length) :
    ∃ value, readUnsigned data offset width = some value := by
  rw [readUnsigned, slice?_of_le inside]
  exact ⟨_, rfl⟩

theorem exists_readI32 {data : List UInt8} {offset : ℕ} (inside : offset + 4 ≤ data.length) :
    ∃ value, readI32 data offset = some value := by
  rcases exists_readUnsigned inside with ⟨value, valueAt⟩
  rw [readI32, valueAt]
  exact ⟨_, rfl⟩

end AtomicArbitrage.Bot

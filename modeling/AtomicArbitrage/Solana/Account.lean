import AtomicArbitrage.Library.Outcome
import AtomicArbitrage.Solana.Pubkey

/-!
# Accounts, instructions and the runtime's interface

An `AccountInfo` is a view of an account: several views of one key alias the same
lamports and data.  The model therefore keeps the mutable part of an account in a
`Ledger` indexed by key, and passes that ledger explicitly through every call.
-/

namespace AtomicArbitrage

/-- The part of a loaded account that stays fixed while the program runs. -/
structure AccountInfo where
  key : Pubkey
  owner : Pubkey
  isSigner : Bool
  isWritable : Bool
deriving DecidableEq, Inhabited

/-- The part of an account that a cross-program invocation may change. -/
structure AccountState where
  lamports : UInt64
  data : List UInt8
deriving DecidableEq

/-- Balances and data by address: two account views with one key share one entry. -/
abbrev Ledger := Pubkey → AccountState

/-- An account reference inside an instruction. -/
structure AccountMeta where
  pubkey : Pubkey
  isSigner : Bool
  isWritable : Bool
deriving DecidableEq

namespace AccountMeta

/-- `AccountMeta::new`: a writable reference. -/
def new (pubkey : Pubkey) (isSigner : Bool) : AccountMeta :=
  { pubkey, isSigner, isWritable := true }

/-- `AccountMeta::new_readonly`. -/
def newReadonly (pubkey : Pubkey) (isSigner : Bool) : AccountMeta :=
  { pubkey, isSigner, isWritable := false }

@[simp] theorem new_pubkey (pubkey : Pubkey) (isSigner : Bool) :
    (new pubkey isSigner).pubkey = pubkey := rfl

@[simp] theorem new_isSigner (pubkey : Pubkey) (isSigner : Bool) :
    (new pubkey isSigner).isSigner = isSigner := rfl

@[simp] theorem new_isWritable (pubkey : Pubkey) (isSigner : Bool) :
    (new pubkey isSigner).isWritable = true := rfl

@[simp] theorem newReadonly_pubkey (pubkey : Pubkey) (isSigner : Bool) :
    (newReadonly pubkey isSigner).pubkey = pubkey := rfl

@[simp] theorem newReadonly_isSigner (pubkey : Pubkey) (isSigner : Bool) :
    (newReadonly pubkey isSigner).isSigner = isSigner := rfl

@[simp] theorem newReadonly_isWritable (pubkey : Pubkey) (isSigner : Bool) :
    (newReadonly pubkey isSigner).isWritable = false := rfl

end AccountMeta

structure Instruction where
  programId : Pubkey
  accounts : List AccountMeta
  data : List UInt8
deriving DecidableEq

/-- `find_program_address`, of which the model uses only the address.  The derivation
hashes and searches for a point off the curve; it stays a parameter everywhere. -/
abbrev FindProgramAddress := List (List UInt8) → Pubkey → Pubkey

/-- The `ProgramError`s the program returns itself. -/
inductive ProgramError where
  | invalidInstructionData
  | invalidAccountData
  | arithmeticOverflow
  | missingRequiredSignature
  | custom (code : Nat)
deriving DecidableEq

/-- How an instruction can end other than with `Ok`.  An out-of-range index of the
account slice is a panic, not an error value. -/
inductive Abort where
  | error (reason : ProgramError)
  | panic
deriving DecidableEq

abbrev Exec := Except Abort

/-- The effect of invoking another program: any new ledger, or any error. -/
abbrev CpiEffect := Instruction → List AccountInfo → Ledger → Except ProgramError Ledger

/-- `accounts[index]`. -/
def account (accounts : List AccountInfo) (index : Nat) : Exec AccountInfo :=
  Outcome.orFail accounts[index]? .panic

@[simp] theorem account_eq_ok {accounts : List AccountInfo} {index : Nat}
    {info : AccountInfo} :
    account accounts index = .ok info ↔ accounts[index]? = some info :=
  Outcome.orFail_eq_ok

/-! ## Loading an instruction -/

/-- How the runtime presents an account reference: a view with the key and the
privileges of that reference, owned by the program the cluster state records. -/
def view (owner : Pubkey → Pubkey) (reference : AccountMeta) : AccountInfo where
  key := reference.pubkey
  owner := owner reference.pubkey
  isSigner := reference.isSigner
  isWritable := reference.isWritable

/-- The account slice of an instruction: one view for each reference, in its order. -/
def load (owner : Pubkey → Pubkey) (references : List AccountMeta) : List AccountInfo :=
  references.map (view owner)

end AtomicArbitrage

import AtomicArbitrage.Solana.Pubkey
import AtomicArbitrage.Library.Lookup

/-!
# Compiled messages

The instructions of a message name accounts by index into its static keys followed by the
addresses that the runtime looks up in tables, all writable ones before all readonly
ones.  A message means what its instructions come to when they are read by that rule.
-/

namespace AtomicArbitrage.Bot

/-! ## Messages -/

/-- `CompiledInstruction`. -/
structure CompiledInstruction where
  programIdIndex : UInt8
  accounts : List UInt8
  data : List UInt8
deriving DecidableEq

/-- `MessageAddressTableLookup`. -/
structure MessageAddressTableLookup where
  accountKey : Pubkey
  writableIndexes : List UInt8
  readonlyIndexes : List UInt8
deriving DecidableEq

/-- The parts of a `v0::Message` that the injectors read or change. -/
structure Message where
  numReadonlyUnsignedAccounts : UInt8
  accountKeys : List Pubkey
  recentBlockhash : Vector UInt8 32
  instructions : List CompiledInstruction
  addressTableLookups : List MessageAddressTableLookup
deriving DecidableEq

/-- What an instruction does, whatever privileges its references carry. -/
structure Resolved where
  programId : Pubkey
  accounts : List Pubkey
  data : List UInt8
deriving DecidableEq

namespace CompiledInstruction

/-- The account indices of an instruction, its program's first. -/
def indices (ci : CompiledInstruction) : List Nat :=
  ci.programIdIndex.toNat :: ci.accounts.map UInt8.toNat

/-- An instruction read against a list of keys. -/
def Resolves (keys : List Pubkey) (ci : CompiledInstruction) (resolved : Resolved) : Prop :=
  Lookup.Reads keys ci.indices (resolved.programId :: resolved.accounts) ∧
    resolved.data = ci.data

theorem resolves_iff_agree {keys other : List Pubkey} {ci : CompiledInstruction}
    {resolved : Resolved} (resolves : ci.Resolves keys resolved) :
    ci.Resolves other resolved ↔ ∀ index ∈ ci.indices, other[index]? = keys[index]? := by
  rw [Resolves, resolves.1.iff_agree]
  exact and_iff_left resolves.2

end CompiledInstruction

/-- The instructions of a list, in order, read against a list of keys. -/
def Means (keys : List Pubkey) (instructions : List CompiledInstruction)
    (meaning : List Resolved) : Prop :=
  List.Forall₂ (CompiledInstruction.Resolves keys) instructions meaning

theorem means_iff_agree {keys other : List Pubkey} {instructions : List CompiledInstruction}
    {meaning : List Resolved} (means : Means keys instructions meaning) :
    Means other instructions meaning ↔
      ∀ index ∈ instructions.flatMap CompiledInstruction.indices,
        other[index]? = keys[index]? :=
  Lookup.forall₂_iff_agree CompiledInstruction.resolves_iff_agree means

/-! ## The runtime's rule -/

/-- The addresses that all lookups of a message select on one side, table by table. -/
def selected (tables : Pubkey → List Pubkey)
    (side : MessageAddressTableLookup → List UInt8)
    (lookups : List MessageAddressTableLookup) : Option (List Pubkey) :=
  (lookups.mapM fun lookup =>
    (side lookup).mapM fun index => (tables lookup.accountKey)[index.toNat]?).map List.flatten

/-- The looked-up addresses of a message: the writable ones of all tables, then the
readonly ones. -/
def loadedAddresses (tables : Pubkey → List Pubkey)
    (lookups : List MessageAddressTableLookup) : Option (List Pubkey) := do
  let writable ← selected tables MessageAddressTableLookup.writableIndexes lookups
  let readonly ← selected tables MessageAddressTableLookup.readonlyIndexes lookups
  pure (writable ++ readonly)

/-- What a message does on a cluster whose tables hold these addresses. -/
def Message.Does (tables : Pubkey → List Pubkey) (message : Message)
    (meaning : List Resolved) : Prop :=
  ∃ loaded, loadedAddresses tables message.addressTableLookups = some loaded ∧
    Means (message.accountKeys ++ loaded) message.instructions meaning

/-! ## Keys behind the static ones -/

/-- The indices that the instructions of a message use. -/
def Message.usedIndices (message : Message) : List Nat :=
  message.instructions.flatMap CompiledInstruction.indices

/-- Behind the static keys, two lists hold the same key at every index that is used. -/
def Message.SameBehind (message : Message) (seen loaded : List Pubkey) : Prop :=
  ∀ index ∈ message.usedIndices, message.accountKeys.length ≤ index →
    seen[index - message.accountKeys.length]? = loaded[index - message.accountKeys.length]?

/-- Reading other keys behind the static ones preserves the meaning of a message exactly
when they are the same at every index that is used. -/
theorem means_iff_sameBehind {message : Message} {seen loaded : List Pubkey}
    {meaning : List Resolved}
    (means : Means (message.accountKeys ++ loaded) message.instructions meaning) :
    Means (message.accountKeys ++ seen) message.instructions meaning ↔
      message.SameBehind seen loaded := by
  rw [means_iff_agree means]
  exact forall₂_congr fun _ _ => Lookup.append_agree_iff

end AtomicArbitrage.Bot

import AtomicArbitrage.Client.Dlmm
import AtomicArbitrage.Bot.Message

/-!
# Tip injection

A built transaction is opened once more to add a tip.  The build-time injector turns its
instructions back into the client's form, against whole lookup tables; the submit-time
injector keeps them and pushes the keys it needs behind the static ones.
-/

namespace AtomicArbitrage.Bot

open Outcome Word64 Client

/-! ## Fetching tables -/

/-- `AddressLookupTableAccount`. -/
structure AddressLookupTableAccount where
  key : Pubkey
  addresses : List Pubkey

/-- `chunks_exact(32)`, each chunk a key. -/
def chunksExact : Nat → List UInt8 → List Pubkey
  | 0, _ => []
  | count + 1, data =>
      (if size : (data.take 32).length = 32 then ⟨data.take 32, size⟩ else .zero) ::
        chunksExact count (data.drop 32)

/-- `fetch_alt_via_rpc`, of the account data an RPC node answers with.  The header is
taken to be thirty-two bytes long. -/
def fetchAltViaRpc (answer : Option (List UInt8)) : List Pubkey :=
  let headerLen := 32
  match answer with
  | none => []
  | some data =>
      if headerLen ≤ data.length then
        chunksExact ((data.length - headerLen) / 32) (data.drop headerLen)
      else []

/-- `get_alt_accounts_sync`: one table for each lookup, from the cache or by a request
whose answer is cached. -/
def getAltAccountsSync (rpc : Pubkey → Option (List UInt8)) :
    List MessageAddressTableLookup → (Pubkey → Option (List Pubkey)) →
      List AddressLookupTableAccount
  | [], _ => []
  | lookup :: lookups, cache =>
      match cache lookup.accountKey with
      | some addresses =>
          ⟨lookup.accountKey, addresses⟩ :: getAltAccountsSync rpc lookups cache
      | none =>
          let fetched := fetchAltViaRpc (rpc lookup.accountKey)
          ⟨lookup.accountKey, fetched⟩ :: getAltAccountsSync rpc lookups
            (Function.update cache lookup.accountKey (some fetched))

/-! ## The build-time injector -/

/-- A system transfer. -/
def transfer (source destination : Pubkey) (lamports : UInt64) : Instruction where
  programId := .ofLiteral systemProgram
  accounts := [.new source true, .new destination false]
  data := encode 4 2 ++ bytes lamports

/-- What an instruction does, its privileges forgotten. -/
def Resolved.ofInstruction (ix : Instruction) : Resolved where
  programId := ix.programId
  accounts := ix.accounts.map AccountMeta.pubkey
  data := ix.data

def jitoTipAccounts : List String :=
  ["3AVi9Tg9Uo68tJfuvoKvqKNWKkC5wPdSSdeBnizKZ6jT",
   "HFqU5x63VTqvQss8hp11i4wVV8bD44PvwucfZ2bU7gRe",
   "Cw8CFyM9FkoMi7K7Crf6HNQqf4uEMzpKw6QNghXLvLkY",
   "DfXygSm4jCyNCybVYYK6DwvWqjKee8pbDmJGcLWNDXjh",
   "ADuUkR4vqLUMWXxW9gh6D6L8pMSawimctcNZ5pGwDcEt",
   "DttWaMuVvTiduZRnguLF7jNxTgiMBZ1hyAumKUiL2KRL",
   "96gYZGLnJYVFmbjzopPSU6QiEV5fGqZNyN9nmNhvrZU5",
   "ADaUMid9yfUytqMBgopwjb2DTLSokTSzL1zt6iGPaS49"]

def jitoTipLamports : UInt64 := 100000

/-- `all_keys[index]` for every index of an instruction; an index out of range is a
panic.  No reference keeps its privileges. -/
def decompileInstruction (allKeys : List Pubkey) (ci : CompiledInstruction) :
    ClientResult Instruction := do
  let programId ← orFail allKeys[ci.programIdIndex.toNat]? .panic
  let accounts ← ci.accounts.mapM fun idx => do
    let pubkey ← orFail allKeys[idx.toNat]? .panic
    pure { pubkey, isSigner := false, isWritable := true }
  pure { programId, accounts, data := ci.data }

/-- `decompile_instructions`. -/
def decompileInstructions (message : Message) (allKeys : List Pubkey) :
    ClientResult (List Instruction) :=
  message.instructions.mapM (decompileInstruction allKeys)

/-- `inject_jito_tip`, up to the list of instructions that it hands to the compiler. -/
def injectJitoTip (rpc : Pubkey → Option (List UInt8)) (cache : Pubkey → Option (List Pubkey))
    (wallet : Pubkey) (original : Message) : ClientResult (List Instruction) := do
  let tipIdx := original.recentBlockhash[0].toNat % jitoTipAccounts.length
  let tipAccount ← parsePubkey (jitoTipAccounts.getD tipIdx "")
  let altAccounts := getAltAccountsSync rpc original.addressTableLookups cache
  let allKeys := original.accountKeys ++ altAccounts.flatMap AddressLookupTableAccount.addresses
  let instructions ← decompileInstructions original allKeys
  pure (instructions ++ [transfer wallet tipAccount jitoTipLamports])

/-! ## The submit-time injector -/

def tipAccounts : List String :=
  ["4ACfpUFoaSD9bfPdeu6DBt89gB6ENTeHBXCAi87NhDEE",
   "D2L6yPZ2FmmmTKPgzaMKdhu6EWZcTpLy1Vhx8uvZe7NZ",
   "9bnz4RShgq1hAnLnZbP8kbgBg1kEmcJBYQq3gQbmnSta",
   "5VY91ws6B2hMmBFRsXkoAAdsPHBJwRfBht4DXox3xkwn",
   "2nyhqdwKcJZR2vcqCyrYsaPVdAnFoJjiksCXJ7hfEYgD",
   "2q5pghRs6arqVjRvT5gfgWfWcHWmw1ZuCzphgd5KfWGJ",
   "wyvPkWjVZz1M8fHQnMMCDTQDbkManefNNhweYk5WkcF",
   "3KCKozbAaF75qEU33jtzozcJ29yJuaLJTy2jFdzUY8bT",
   "4vieeGHPYPG2MmyPRcYjdiDmmhN3ww7hsFNap8pVN3Ey",
   "4TQLFNWK8AovT1gFvda5jfw2oJeRMKEmw7aH6MGBJ3or",
   "D1Mc6j9xQWgR1o1Z7yU5nVVXFQiAYx7FG9AW1aVfwrUM"]

def minTipLamportsSwqos : UInt64 := 5000
def minTipLamportsDual : UInt64 := 200000

/-- What has to be pushed behind some keys for one key to be among them. -/
def missing (keys : List Pubkey) (key : Pubkey) : List Pubkey :=
  if key ∈ keys then [] else [key]

/-- The static keys with one key ensured. -/
def ensureKey (keys : List Pubkey) (key : Pubkey) : List Pubkey := keys ++ missing keys key

/-- `add_tip_and_resign`, of the message.  The index of a key that had to be appended is
its first position too, so both positions are `idxOf`; they are cut down to a byte. -/
def addTipAndResign (message : Message) (minSlot : UInt64) (swqosOnly : Bool) :
    ClientResult Message := do
  let tipLamports := if swqosOnly then minTipLamportsSwqos else minTipLamportsDual
  let tipIdx := minSlot.toNat % tipAccounts.length
  let tipAccount ← orFail (Pubkey.fromStr? (tipAccounts.getD tipIdx ""))
    (.bail "invalid tip account")
  let sysProg : Pubkey := .ofLiteral systemProgram
  let sysProgIdx := UInt8.ofNat (message.accountKeys.idxOf sysProg)
  let withSysProg := ensureKey message.accountKeys sysProg
  let tipAcctIdx := UInt8.ofNat (withSysProg.idxOf tipAccount)
  let accountKeys := ensureKey withSysProg tipAccount
  let _first ← orFail message.instructions.head? (.bail "tx has no instructions to clone")
  let tipIx : CompiledInstruction :=
    { programIdIndex := sysProgIdx, accounts := [0, tipAcctIdx]
      data := encode 4 2 ++ bytes tipLamports }
  pure { message with
    numReadonlyUnsignedAccounts := 0
    accountKeys
    instructions := message.instructions ++ [tipIx] }

/-! ## What the build-time injector sees -/

/-- A reference without its privileges. -/
def bare (pubkey : Pubkey) : AccountMeta := { pubkey, isSigner := false, isWritable := true }

/-- The instruction that a compiled instruction of this meaning is turned into. -/
def Resolved.decompiled (resolved : Resolved) : Instruction where
  programId := resolved.programId
  accounts := resolved.accounts.map bare
  data := resolved.data

@[simp] theorem ofInstruction_decompiled (resolved : Resolved) :
    Resolved.ofInstruction resolved.decompiled = resolved := by
  have forgotten : AccountMeta.pubkey ∘ bare = id := rfl
  simp only [Resolved.ofInstruction, Resolved.decompiled, List.map_map, forgotten,
    List.map_id]

section

variable {keys : List Pubkey}

theorem decompile_accounts_eq_ok {indices : List UInt8} {references : List AccountMeta} :
    indices.mapM (fun idx => do
        let pubkey ← orFail keys[idx.toNat]? ClientError.panic
        pure (bare pubkey)) = .ok references ↔
      ∃ pubkeys, Lookup.Reads keys (indices.map UInt8.toNat) pubkeys ∧
        pubkeys.map bare = references := by
  rw [mapM_eq_ok]
  simp only [bind_eq_ok, orFail_eq_ok, pure_eq_ok]
  constructor
  · intro related
    induction related with
    | nil => exact ⟨[], .nil, rfl⟩
    | @cons index reference indices references head _ ih =>
        rcases head with ⟨pubkey, entry, rfl⟩
        rcases ih with ⟨pubkeys, reads, rfl⟩
        exact ⟨pubkey :: pubkeys, .cons entry reads, rfl⟩
  · rintro ⟨pubkeys, reads, rfl⟩
    rw [List.forall₂_map_right_iff]
    exact (List.forall₂_map_left_iff.mp reads).imp fun _ pubkey entry => ⟨pubkey, entry, rfl⟩

/-- Decompiling follows the same indices as the runtime, in the list it is given. -/
theorem decompileInstruction_eq_ok {ci : CompiledInstruction} {ix : Instruction} :
    decompileInstruction keys ci = .ok ix ↔
      ∃ resolved, ci.Resolves keys resolved ∧ resolved.decompiled = ix := by
  have accountsRule := @decompile_accounts_eq_ok keys ci.accounts
  simp only [bare] at accountsRule
  simp only [decompileInstruction, bind_eq_ok, orFail_eq_ok, pure_eq_ok, accountsRule]
  constructor
  · rintro ⟨programId, program, _, ⟨pubkeys, reads, rfl⟩, rfl⟩
    exact ⟨⟨programId, pubkeys, ci.data⟩, ⟨.cons program reads, rfl⟩, rfl⟩
  · rintro ⟨⟨programId, pubkeys, data⟩, ⟨reads, rfl⟩, rfl⟩
    rcases List.forall₂_cons.mp reads with ⟨program, rest⟩
    exact ⟨programId, program, _, ⟨pubkeys, rest, rfl⟩, rfl⟩

/-- The decompiled instructions have a meaning exactly when the message has it in the
list of keys they were read from. -/
theorem decompileInstructions_iff {message : Message} {meaning : List Resolved} :
    (∃ instructions, decompileInstructions message keys = .ok instructions ∧
        instructions.map Resolved.ofInstruction = meaning) ↔
      Means keys message.instructions meaning := by
  simp only [decompileInstructions, mapM_eq_ok, decompileInstruction_eq_ok]
  constructor
  · rintro ⟨instructions, related, rfl⟩
    refine List.forall₂_map_right_iff.mpr (related.imp ?_)
    rintro ci _ ⟨resolved, resolves, rfl⟩
    rwa [ofInstruction_decompiled]
  · intro means
    refine ⟨meaning.map Resolved.decompiled, ?_, ?_⟩
    · exact List.forall₂_map_right_iff.mpr
        (means.imp fun _ resolved resolves => ⟨resolved, resolves, rfl⟩)
    · rw [List.map_map]
      exact (List.map_congr_left fun resolved _ => ofInstruction_decompiled resolved).trans
        (List.map_id _)

end

theorem parse_of_isSome {text : String} (parses : (Pubkey.fromStr? text).isSome = true) :
    Pubkey.fromStr? text = some (.ofLiteral text) := by
  rcases Option.isSome_iff_exists.mp parses with ⟨key, found⟩
  rw [Pubkey.ofLiteral, found, Option.getD_some]

theorem jitoTipAccounts_parse :
    ∀ text ∈ jitoTipAccounts, (Pubkey.fromStr? text).isSome = true := by
  decide +kernel

theorem tipAccounts_parse : ∀ text ∈ tipAccounts, (Pubkey.fromStr? text).isSome = true := by
  decide +kernel

/-- The tip account of the build-time injector. -/
def Message.jitoTipAccount (message : Message) : Pubkey :=
  .ofLiteral (jitoTipAccounts.getD (message.recentBlockhash[0].toNat % jitoTipAccounts.length) "")

/-- The build-time injector hands on the instructions of a message and one tip. -/
def InjectPreserves (rpc : Pubkey → Option (List UInt8))
    (cache : Pubkey → Option (List Pubkey)) (wallet : Pubkey) (original : Message)
    (meaning : List Resolved) : Prop :=
  ∃ instructions, injectJitoTip rpc cache wallet original = .ok instructions ∧
    instructions.map Resolved.ofInstruction =
      meaning ++ [.ofInstruction (transfer wallet original.jitoTipAccount jitoTipLamports)]

/-- The addresses of one table as the injector sees them: cached by an earlier call, or
read from the answer to a request. -/
def seenTable (rpc : Pubkey → Option (List UInt8)) (cache : Pubkey → Option (List Pubkey))
    (table : Pubkey) : List Pubkey :=
  (cache table).getD (fetchAltViaRpc (rpc table))

/-- Caching an answer changes no later one. -/
theorem getAltAccountsSync_eq {rpc : Pubkey → Option (List UInt8)}
    {lookups : List MessageAddressTableLookup} {cache : Pubkey → Option (List Pubkey)} :
    getAltAccountsSync rpc lookups cache =
      lookups.map fun lookup => ⟨lookup.accountKey, seenTable rpc cache lookup.accountKey⟩ := by
  induction lookups generalizing cache with
  | nil => rfl
  | cons lookup lookups ih =>
      cases found : cache lookup.accountKey with
      | some addresses =>
          simp only [getAltAccountsSync, found, ih, List.map_cons, seenTable,
            Option.getD_some]
      | none =>
          have unchanged : seenTable rpc (Function.update cache lookup.accountKey
              (some (fetchAltViaRpc (rpc lookup.accountKey)))) = seenTable rpc cache := by
            funext table
            by_cases same : table = lookup.accountKey
            · subst same
              simp only [seenTable, Function.update_self, found, Option.getD_some,
                Option.getD_none]
            · simp only [seenTable, Function.update_of_ne same]
          simp only [getAltAccountsSync, found, ih, unchanged, List.map_cons]
          simp only [seenTable, found, Option.getD_none]

/-- What the build-time injector puts behind the static keys: whole tables, one after
another. -/
def wholeTables (rpc : Pubkey → Option (List UInt8)) (cache : Pubkey → Option (List Pubkey))
    (message : Message) : List Pubkey :=
  message.addressTableLookups.flatMap fun lookup => seenTable rpc cache lookup.accountKey

theorem injectPreserves_iff {rpc : Pubkey → Option (List UInt8)}
    {cache : Pubkey → Option (List Pubkey)} {wallet : Pubkey} {original : Message}
    {meaning : List Resolved} {loaded : List Pubkey}
    (means : Means (original.accountKeys ++ loaded) original.instructions meaning) :
    InjectPreserves rpc cache wallet original meaning ↔
      original.SameBehind (wholeTables rpc cache original) loaded := by
  have tip : parsePubkey (jitoTipAccounts.getD (original.recentBlockhash[0].toNat %
      jitoTipAccounts.length) "") = .ok original.jitoTipAccount := by
    have inside : original.recentBlockhash[0].toNat % jitoTipAccounts.length <
        jitoTipAccounts.length :=
      Nat.mod_lt _ (by decide)
    refine parsePubkey_eq_ok.mpr (parse_of_isSome (jitoTipAccounts_parse _ ?_))
    rw [List.getD_eq_getElem?_getD, List.getElem?_eq_getElem inside]
    exact List.getElem_mem inside
  have whole : (getAltAccountsSync rpc original.addressTableLookups cache).flatMap
      AddressLookupTableAccount.addresses = wholeTables rpc cache original := by
    rw [getAltAccountsSync_eq, List.flatMap_map, wholeTables]
  rw [← means_iff_sameBehind means, ← decompileInstructions_iff]
  simp only [InjectPreserves, injectJitoTip, tip, whole, ok_bind, bind_eq_ok, pure_eq_ok]
  constructor
  · rintro ⟨_, ⟨instructions, decompiled, rfl⟩, same⟩
    rw [List.map_append] at same
    exact ⟨instructions, decompiled, List.append_cancel_right same⟩
  · rintro ⟨instructions, decompiled, rfl⟩
    exact ⟨_, ⟨instructions, decompiled, rfl⟩, List.map_append⟩

/-! ## What the submit-time injector leaves -/

/-- The static keys once the system program is among them. -/
def Message.withSystem (message : Message) : List Pubkey :=
  ensureKey message.accountKeys (.ofLiteral systemProgram)

/-- The tip account of the submit-time injector. -/
def senderTipAccount (minSlot : UInt64) : Pubkey :=
  .ofLiteral (tipAccounts.getD (minSlot.toNat % tipAccounts.length) "")

def senderTipLamports (swqosOnly : Bool) : UInt64 :=
  if swqosOnly then minTipLamportsSwqos else minTipLamportsDual

/-- The keys that the submit-time injector pushes in front of the looked-up ones. -/
def Message.pushedKeys (message : Message) (minSlot : UInt64) : List Pubkey :=
  missing message.accountKeys (.ofLiteral systemProgram) ++
    missing message.withSystem (senderTipAccount minSlot)

/-- The submit-time injector leaves a message that does what it did and one tip. -/
def SenderPreserves (tables : Pubkey → List Pubkey) (wallet : Pubkey) (original : Message)
    (minSlot : UInt64) (swqosOnly : Bool) (meaning : List Resolved) : Prop :=
  ∃ tipped, addTipAndResign original minSlot swqosOnly = .ok tipped ∧
    tipped.Does tables (meaning ++
      [.ofInstruction (transfer wallet (senderTipAccount minSlot)
        (senderTipLamports swqosOnly))])

/-- The submit-time injector has an instruction to clone, byte-sized places for its two
keys, and nothing to push in front of a looked-up key that is used. -/
structure Message.LeavesRoom (message : Message) (minSlot : UInt64) (loaded : List Pubkey) :
    Prop where
  instructed : message.instructions ≠ []
  systemPlace : message.accountKeys.idxOf (.ofLiteral systemProgram) < 256
  tipPlace : message.withSystem.idxOf (senderTipAccount minSlot) < 256
  sameBehind : message.SameBehind (message.pushedKeys minSlot ++ loaded) loaded

theorem mem_ensureKey (keys : List Pubkey) (key : Pubkey) : key ∈ ensureKey keys key := by
  rw [ensureKey, missing]
  split <;> simp_all

theorem idxOf_ensureKey (keys : List Pubkey) (key : Pubkey) :
    (ensureKey keys key).idxOf key = keys.idxOf key := by
  rw [ensureKey, missing]
  rw [List.idxOf_append]
  split
  · rfl
  · next absent => simp [List.idxOf_eq_length absent]

/-- The byte that names an ensured key resolves to it exactly when its place fits. -/
theorem resolve_ensureKey {keys rest : List Pubkey} {key : Pubkey} :
    (ensureKey keys key ++ rest)[(UInt8.ofNat (keys.idxOf key)).toNat]? = some key ↔
      keys.idxOf key < 256 := by
  rw [← idxOf_ensureKey]
  exact Lookup.getElem?_byte_idxOf_iff (mem_ensureKey keys key)

/-- The tip instruction of the submit-time injector. -/
def Message.senderTip (message : Message) (minSlot : UInt64) (swqosOnly : Bool) :
    CompiledInstruction where
  programIdIndex := UInt8.ofNat (message.accountKeys.idxOf (.ofLiteral systemProgram))
  accounts := [0, UInt8.ofNat (message.withSystem.idxOf (senderTipAccount minSlot))]
  data := encode 4 2 ++ bytes (senderTipLamports swqosOnly)

/-- A message as the submit-time injector leaves it. -/
def Message.tipped (message : Message) (minSlot : UInt64) (swqosOnly : Bool) : Message :=
  { message with
    numReadonlyUnsignedAccounts := 0
    accountKeys := message.accountKeys ++ message.pushedKeys minSlot
    instructions := message.instructions ++ [message.senderTip minSlot swqosOnly] }

theorem addTipAndResign_eq_ok {original tipped : Message} {minSlot : UInt64}
    {swqosOnly : Bool} :
    addTipAndResign original minSlot swqosOnly = .ok tipped ↔
      original.instructions ≠ [] ∧ original.tipped minSlot swqosOnly = tipped := by
  have tip : Pubkey.fromStr? (tipAccounts.getD (minSlot.toNat % tipAccounts.length) "") =
      some (senderTipAccount minSlot) := by
    have inside : minSlot.toNat % tipAccounts.length < tipAccounts.length :=
      Nat.mod_lt _ (by decide)
    refine parse_of_isSome (tipAccounts_parse _ ?_)
    rw [List.getD_eq_getElem?_getD, List.getElem?_eq_getElem inside]
    exact List.getElem_mem inside
  have keys : ensureKey (ensureKey original.accountKeys (.ofLiteral systemProgram))
      (senderTipAccount minSlot) = original.accountKeys ++ original.pushedKeys minSlot :=
    List.append_assoc _ _ _
  simp only [addTipAndResign, tip, keys, orFail_some, ok_bind]
  cases shape : original.instructions with
  | nil => simp [orFail]
  | cons first rest =>
      simp only [List.head?_cons, orFail_some, ok_bind, pure_eq_ok, ne_eq, reduceCtorEq,
        not_false_eq_true, true_and]
      rw [← shape]
      exact Iff.rfl

theorem senderTip_resolves_iff {message : Message} {minSlot : UInt64} {swqosOnly : Bool}
    {wallet : Pubkey} {rest : List Pubkey} (payer : message.accountKeys.head? = some wallet) :
    (message.senderTip minSlot swqosOnly).Resolves
        (message.accountKeys ++ (message.pushedKeys minSlot ++ rest))
        (.ofInstruction (transfer wallet (senderTipAccount minSlot)
          (senderTipLamports swqosOnly))) ↔
      message.accountKeys.idxOf (.ofLiteral systemProgram) < 256 ∧
        message.withSystem.idxOf (senderTipAccount minSlot) < 256 := by
  have first (back : List Pubkey) : (message.accountKeys ++ back)[0]? = some wallet := by
    rw [← List.head?_eq_getElem?, List.head?_append, payer, Option.some_or]
  have system : (message.accountKeys ++ (message.pushedKeys minSlot ++ rest))[(UInt8.ofNat
      (message.accountKeys.idxOf (.ofLiteral systemProgram))).toNat]? =
        some (.ofLiteral systemProgram) ↔
      message.accountKeys.idxOf (.ofLiteral systemProgram) < 256 := by
    rw [Message.pushedKeys, List.append_assoc, ← List.append_assoc]
    exact resolve_ensureKey
  have tip : (message.accountKeys ++ (message.pushedKeys minSlot ++ rest))[(UInt8.ofNat
      (message.withSystem.idxOf (senderTipAccount minSlot))).toNat]? =
        some (senderTipAccount minSlot) ↔
      message.withSystem.idxOf (senderTipAccount minSlot) < 256 := by
    rw [Message.pushedKeys, List.append_assoc, ← List.append_assoc, ← List.append_assoc]
    exact resolve_ensureKey
  have reads : CompiledInstruction.Resolves
        (message.accountKeys ++ (message.pushedKeys minSlot ++ rest))
        (message.senderTip minSlot swqosOnly)
        (.ofInstruction (transfer wallet (senderTipAccount minSlot)
          (senderTipLamports swqosOnly))) ↔ _ :=
    and_iff_left rfl
  rw [reads, ← system, ← tip]
  simp only [Lookup.Reads, CompiledInstruction.indices, Message.senderTip,
    Resolved.ofInstruction, transfer, List.map_cons, List.map_nil, List.forall₂_cons,
    AccountMeta.new_pubkey, List.Forall₂.nil, and_true]
  refine and_congr_right fun _ => and_iff_right ?_
  exact first _

theorem senderPreserves_iff {tables : Pubkey → List Pubkey} {wallet : Pubkey}
    {original : Message} {minSlot : UInt64} {swqosOnly : Bool} {meaning : List Resolved}
    {loaded : List Pubkey}
    (loads : loadedAddresses tables original.addressTableLookups = some loaded)
    (payer : original.accountKeys.head? = some wallet)
    (means : Means (original.accountKeys ++ loaded) original.instructions meaning) :
    SenderPreserves tables wallet original minSlot swqosOnly meaning ↔
      original.LeavesRoom minSlot loaded := by
  have does : (original.tipped minSlot swqosOnly).Does tables (meaning ++
        [.ofInstruction (transfer wallet (senderTipAccount minSlot)
          (senderTipLamports swqosOnly))]) ↔
      original.SameBehind (original.pushedKeys minSlot ++ loaded) loaded ∧
        original.accountKeys.idxOf (.ofLiteral systemProgram) < 256 ∧
        original.withSystem.idxOf (senderTipAccount minSlot) < 256 := by
    simp only [Message.Does, Message.tipped, loads, Option.some_inj, exists_eq_left',
      List.append_assoc, Means, Lookup.forall₂_concat_iff]
    exact and_congr (means_iff_sameBehind means) (senderTip_resolves_iff payer)
  simp only [SenderPreserves, addTipAndResign_eq_ok, and_assoc, exists_and_left,
    exists_eq_left', does]
  constructor
  · rintro ⟨instructed, sameBehind, systemPlace, tipPlace⟩
    exact ⟨instructed, systemPlace, tipPlace, sameBehind⟩
  · rintro ⟨instructed, systemPlace, tipPlace, sameBehind⟩
    exact ⟨instructed, sameBehind, systemPlace, tipPlace⟩

/-! ## Both injectors -/

section

variable {rpc : Pubkey → Option (List UInt8)} {cache : Pubkey → Option (List Pubkey)}
variable {tables : Pubkey → List Pubkey} {wallet : Pubkey} {original : Message}
variable {minSlot : UInt64} {swqosOnly : Bool} {meaning : List Resolved}
variable {loaded : List Pubkey}

/-- Tip injection preserves the trade of a message exactly when it uses no index behind
the static keys at which the runtime's selection differs from what the injector has
there: whole tables at build time, pushed keys and then the selection at submit time. -/
theorem tipInjection_iff
    (loads : loadedAddresses tables original.addressTableLookups = some loaded)
    (payer : original.accountKeys.head? = some wallet)
    (means : Means (original.accountKeys ++ loaded) original.instructions meaning) :
    (InjectPreserves rpc cache wallet original meaning ↔
        original.SameBehind (wholeTables rpc cache original) loaded) ∧
      (SenderPreserves tables wallet original minSlot swqosOnly meaning ↔
        original.LeavesRoom minSlot loaded) :=
  ⟨injectPreserves_iff means, senderPreserves_iff loads payer means⟩

end

/-- An address of one repeated byte. -/
def sampleAddress (fill : UInt8) : Pubkey where
  bytes := List.replicate 32 fill
  size := List.length_replicate

/-- A trade of one instruction on a program, over the wallet and the account at index
two. -/
def sampleMessage (counterparty : List Pubkey) (lookups : List MessageAddressTableLookup) :
    Message where
  numReadonlyUnsignedAccounts := 1
  accountKeys := [sampleAddress 1, sampleAddress 2] ++ counterparty
  recentBlockhash := .replicate 32 9
  instructions := [{ programIdIndex := 1, accounts := [0, 2], data := [7] }]
  addressTableLookups := lookups

def sampleMeaning : List Resolved :=
  [{ programId := sampleAddress 2, accounts := [sampleAddress 1, sampleAddress 4], data := [7] }]

/-- With its accounts in the static keys, the trade is preserved by both injectors. -/
theorem tipInjection_sample :
    InjectPreserves (fun _ => none) (fun _ => none) (sampleAddress 1)
        (sampleMessage [sampleAddress 4] []) sampleMeaning ∧
      SenderPreserves (fun _ => []) (sampleAddress 1) (sampleMessage [sampleAddress 4] [])
        0 false sampleMeaning := by
  have both := @tipInjection_iff (fun _ => none) (fun _ => none) (fun _ => [])
    (sampleAddress 1) (sampleMessage [sampleAddress 4] []) 0 false sampleMeaning []
    rfl rfl (.cons ⟨.cons rfl (.cons rfl (.cons rfl .nil)), rfl⟩ .nil)
  have inside : ∀ index ∈ (sampleMessage [sampleAddress 4] []).usedIndices,
      index < (sampleMessage [sampleAddress 4] []).accountKeys.length := by decide
  have sameBehind (seen : List Pubkey) :
      (sampleMessage [sampleAddress 4] []).SameBehind seen [] :=
    fun index used behind => absurd (inside index used) (Nat.not_lt.mpr behind)
  refine ⟨both.1.mpr (sameBehind _), both.2.mpr ⟨List.cons_ne_nil _ _, ?_, ?_, sameBehind _⟩⟩
  · decide +kernel
  · decide +kernel

/-- The second address of a table, as a writable account. -/
def sampleLookup : MessageAddressTableLookup where
  accountKey := sampleAddress 5
  writableIndexes := [1]
  readonlyIndexes := []

def sampleTables : Pubkey → List Pubkey := fun _ => [sampleAddress 3, sampleAddress 4]

/-- The account data of such a table: fifty-six bytes of metadata, then the addresses. -/
def sampleTableData : List UInt8 :=
  encode 4 1 ++ List.replicate 8 255 ++ encode 8 300000000 ++ [0] ++
    (1 :: (sampleAddress 1).bytes) ++ [0, 0] ++
    (sampleTables (sampleAddress 5)).flatMap Pubkey.bytes

/-- With the account looked up in a table, neither injector preserves it. -/
theorem tipInjection_drifts :
    (sampleMessage [] [sampleLookup]).Does sampleTables sampleMeaning ∧
      ¬InjectPreserves (fun _ => some sampleTableData) (fun _ => none) (sampleAddress 1)
        (sampleMessage [] [sampleLookup]) sampleMeaning ∧
      ¬SenderPreserves sampleTables (sampleAddress 1) (sampleMessage [] [sampleLookup])
        0 false sampleMeaning := by
  have means : Means ((sampleMessage [] [sampleLookup]).accountKeys ++ [sampleAddress 4])
      (sampleMessage [] [sampleLookup]).instructions sampleMeaning :=
    .cons ⟨.cons rfl (.cons rfl (.cons rfl .nil)), rfl⟩ .nil
  refine ⟨⟨_, rfl, means⟩, ?_, ?_⟩
  · rw [injectPreserves_iff means]
    intro same
    exact absurd (same 2 (by decide) (by decide)) (by decide +kernel)
  · rw [senderPreserves_iff rfl rfl means]
    intro room
    exact absurd (room.sameBehind 2 (by decide) (by decide)) (by decide +kernel)

end AtomicArbitrage.Bot

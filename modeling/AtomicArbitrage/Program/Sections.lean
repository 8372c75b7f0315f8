import AtomicArbitrage.Program.Constants

/-!
# Section validators

The four `validate_section` functions.  A validator reads accounts at fixed offsets of
its section and compares keys and owners; it decides nothing about accounts it does not
read, which is what later results about slots left unchecked rest on.
-/

namespace AtomicArbitrage.Program

open Outcome

/-- Compare the key at an index, failing with the given error. -/
def expectKey (accounts : List AccountInfo) (index : Nat) (key : Pubkey) (reason : Abort) :
    Exec Unit := do
  let info ← account accounts index
  require (info.key = key) reason

/-- Compare the owner at an index, failing with the given error. -/
def expectOwner (accounts : List AccountInfo) (index : Nat) (owner : Pubkey)
    (reason : Abort) : Exec Unit := do
  let info ← account accounts index
  require (info.owner = owner) reason

/-- The account at an index has a key. -/
def KeyAt (accounts : List AccountInfo) (index : Nat) (key : Pubkey) : Prop :=
  ∃ info, accounts[index]? = some info ∧ info.key = key

/-- The account at an index has an owner. -/
def OwnerAt (accounts : List AccountInfo) (index : Nat) (owner : Pubkey) : Prop :=
  ∃ info, accounts[index]? = some info ∧ info.owner = owner

@[simp] theorem expectKey_eq_ok {accounts : List AccountInfo} {index : Nat} {key : Pubkey}
    {reason : Abort} {value : Unit} :
    expectKey accounts index key reason = .ok value ↔ KeyAt accounts index key := by
  simp [expectKey, KeyAt]

@[simp] theorem expectOwner_eq_ok {accounts : List AccountInfo} {index : Nat}
    {owner : Pubkey} {reason : Abort} {value : Unit} :
    expectOwner accounts index owner reason = .ok value ↔ OwnerAt accounts index owner := by
  simp [expectOwner, OwnerAt]

/-! ## PumpSwap -/

namespace DexPumpSwap

@[simp] def pumpSwapBuyFixedLen : Nat := pumpBuyFixedLen

/-- `validate_section`: program, global configuration and event authority. -/
def validateSection (pda : FindProgramAddress) (accounts : List AccountInfo)
    (base _remaining : Nat) : Exec Unit := do
  expectKey accounts (base + pumpBuyProgram) pumpSwapId (arbErr arbBadProgram)
  expectKey accounts (base + pumpBuyGlobalConfig) (pda [pumpGlobalConfigSeed] pumpSwapId)
    (arbErr arbBadPda)
  expectKey accounts (base + pumpBuyEventAuthority) (pda [pumpEventAuthSeed] pumpSwapId)
    (arbErr arbBadPda)

theorem validateSection_eq_ok {pda : FindProgramAddress} {accounts : List AccountInfo}
    {base remaining : Nat} {value : Unit} :
    validateSection pda accounts base remaining = .ok value ↔
      KeyAt accounts (base + 16) pumpSwapId ∧
        KeyAt accounts (base + 2) (pda [pumpGlobalConfigSeed] pumpSwapId) ∧
        KeyAt accounts (base + 15) (pda [pumpEventAuthSeed] pumpSwapId) := by
  simp [validateSection]

end DexPumpSwap

/-! ## DLMM -/

namespace DexDlmm

/-- Nine base accounts plus the two mints and the two token programs. -/
@[simp] def dlmmFixedLen : Nat := 13
@[simp] def dlmmTokenXMintOff : Nat := 9
@[simp] def dlmmTokenYMintOff : Nat := 10
@[simp] def dlmmTokenXProgOff : Nat := 11
@[simp] def dlmmTokenYProgOff : Nat := 12

/-- `validate_section`. -/
def validateSection (pda : FindProgramAddress) (accounts : List AccountInfo)
    (base remaining : Nat) : Exec Unit := do
  require (¬(remaining < 1 ∨ remaining > 6)) (arbErr arbBadAccountCount)
  expectKey accounts (base + dlmmProgramRel) dlmmId (arbErr arbBadProgram)
  expectOwner accounts (base + dlmmLbPairRel) dlmmId (arbErr arbBadProgram)
  let lbPair ← account accounts (base + dlmmLbPairRel)
  expectKey accounts (base + dlmmOracleRel) (pda [dlmmOracleSeed, lbPair.key.bytes] dlmmId)
    (arbErr arbBadPda)
  expectKey accounts (base + dlmmMemoRel) memoId (arbErr arbBadProgram)
  expectKey accounts (base + dlmmEventAuthRel) dlmmEventAuth (arbErr arbBadProgram)

theorem validateSection_eq_ok {pda : FindProgramAddress} {accounts : List AccountInfo}
    {base remaining : Nat} {value : Unit} :
    validateSection pda accounts base remaining = .ok value ↔
      (1 ≤ remaining ∧ remaining ≤ 6) ∧ KeyAt accounts base dlmmId ∧
        OwnerAt accounts (base + 1) dlmmId ∧
        ∃ lbPair, accounts[base + 1]? = some lbPair ∧
          KeyAt accounts (base + 5) (pda [dlmmOracleSeed, lbPair.key.bytes] dlmmId) ∧
          KeyAt accounts (base + 7) memoId ∧ KeyAt accounts (base + 8) dlmmEventAuth := by
  simp [validateSection, Nat.one_le_iff_ne_zero]

end DexDlmm

/-! ## CPMM -/

namespace DexCpmm

@[simp] def cpmmFixedLen : Nat := 13

/-- `validate_section`.  The configuration account is read and accepted whatever it is. -/
def validateSection (pda : FindProgramAddress) (accounts : List AccountInfo)
    (cpmmBase _remainingCount : Nat) : Exec Unit := do
  expectKey accounts cpmmBase cpmmId (arbErr arbBadProgram)
  let _ammConfig ← account accounts (cpmmBase + 2)
  let inTokProg ← account accounts (cpmmBase + 10)
  let outTokProg ← account accounts (cpmmBase + 11)
  require (inTokProg.key = tokenId ∨ inTokProg.key = token22) (arbErr arbBadProgram)
  require (outTokProg.key = tokenId ∨ outTokProg.key = token22) (arbErr arbBadProgram)
  expectKey accounts (cpmmBase + 12) memoId (arbErr arbBadProgram)
  let poolState ← account accounts (cpmmBase + 3)
  expectKey accounts (cpmmBase + 1) (pda [cpmmAuthSeed, poolState.key.bytes] cpmmId)
    (arbErr arbBadPda)
  expectOwner accounts (cpmmBase + 3) cpmmId (arbErr arbBadProgram)

theorem validateSection_eq_ok {pda : FindProgramAddress} {accounts : List AccountInfo}
    {base remaining : Nat} {value : Unit} :
    validateSection pda accounts base remaining = .ok value ↔
      KeyAt accounts base cpmmId ∧ (∃ ammConfig, accounts[base + 2]? = some ammConfig) ∧
        (KeyAt accounts (base + 10) tokenId ∨ KeyAt accounts (base + 10) token22) ∧
        (KeyAt accounts (base + 11) tokenId ∨ KeyAt accounts (base + 11) token22) ∧
        KeyAt accounts (base + 12) memoId ∧
        ∃ poolState, accounts[base + 3]? = some poolState ∧
          KeyAt accounts (base + 1) (pda [cpmmAuthSeed, poolState.key.bytes] cpmmId) ∧
          OwnerAt accounts (base + 3) cpmmId := by
  simp only [validateSection, bind_eq_ok, expectKey_eq_ok, expectOwner_eq_ok,
    account_eq_ok, require_eq_ok, exists_and_left, exists_const, KeyAt]
  aesop

end DexCpmm

/-! ## Whirlpool -/

namespace DexWhirlpool

@[simp] def whirlpoolFixedLen : Nat := 12
@[simp] def whirlpoolTokenProgOff : Nat := 11

/-- `validate_section`.  At least one tick array has to be declared as remaining. -/
def validateSection (pda : FindProgramAddress) (accounts : List AccountInfo)
    (whirlpoolBase tickArrayCount : Nat) : Exec Unit := do
  expectKey accounts whirlpoolBase whirlpoolId (arbErr arbBadProgram)
  require (¬(tickArrayCount < 1 ∨ tickArrayCount > 3)) (arbErr arbBadAccountCount)
  expectKey accounts (whirlpoolBase + 1) (pda [whirlpoolAuthSeed] whirlpoolId)
    (arbErr arbBadPda)
  expectOwner accounts (whirlpoolBase + 2) whirlpoolId (arbErr arbBadProgram)
  let whirlpoolKey ← account accounts (whirlpoolBase + 2)
  expectKey accounts (whirlpoolBase + 10) (pda [ascii "oracle", whirlpoolKey.key.bytes]
    whirlpoolId) (arbErr arbBadPda)
  let tokenProgram ← account accounts (whirlpoolBase + 11)
  require (tokenProgram.key = tokenId ∨ tokenProgram.key = token22) (arbErr arbBadProgram)

theorem validateSection_eq_ok {pda : FindProgramAddress} {accounts : List AccountInfo}
    {base remaining : Nat} {value : Unit} :
    validateSection pda accounts base remaining = .ok value ↔
      KeyAt accounts base whirlpoolId ∧ (1 ≤ remaining ∧ remaining ≤ 3) ∧
        KeyAt accounts (base + 1) (pda [whirlpoolAuthSeed] whirlpoolId) ∧
        OwnerAt accounts (base + 2) whirlpoolId ∧
        ∃ whirlpool, accounts[base + 2]? = some whirlpool ∧
          KeyAt accounts (base + 10) (pda [ascii "oracle", whirlpool.key.bytes] whirlpoolId) ∧
          ∃ tokenProgram, accounts[base + 11]? = some tokenProgram ∧
            (tokenProgram.key = tokenId ∨ tokenProgram.key = token22) := by
  simp [validateSection, Nat.one_le_iff_ne_zero]

end DexWhirlpool

end AtomicArbitrage.Program

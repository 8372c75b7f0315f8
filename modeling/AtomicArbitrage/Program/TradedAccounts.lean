import AtomicArbitrage.Program.NoPanic

/-!
# The accounts that are traded

The invariants after the two legs compare the balances of the shared accounts.  A leg trades
with the accounts that its instruction names.  The builders of three exchanges take the
shared indices; the PumpSwap builders read the copies in the PumpSwap section, which no
handler compares with the shared accounts.
-/

namespace AtomicArbitrage.Program

open Outcome

/-- What an account of the user is for. -/
inductive Role where
  | user
  | userBaseAta
  | userQuoteAta
deriving DecidableEq

inductive Side where
  | buy
  | sell
deriving DecidableEq

/-- The shared account that a leg spends from. -/
def Side.input : Side → ℕ
  | .buy => userSolAtaIdx
  | .sell => userMemeAtaIdx

/-- The shared account that a leg delivers to. -/
def Side.output : Side → ℕ
  | .buy => userMemeAtaIdx
  | .sell => userSolAtaIdx

namespace Role

/-- The shared account whose balance is compared. -/
def sharedIdx : Role → ℕ
  | .user => userIdx
  | .userBaseAta => userMemeAtaIdx
  | .userQuoteAta => userSolAtaIdx

/-- The position of an account in the instruction of a leg.  A purchase spends the quote
token, a sale the base token. -/
def position (role : Role) (side : Side) : DexKind → ℕ
  | .pumpSwap =>
      match role with
      | .user => 1
      | .userBaseAta => 5
      | .userQuoteAta => 6
  | .dlmm =>
      match role, side with
      | .user, _ => 10
      | .userBaseAta, .sell | .userQuoteAta, .buy => 4
      | .userBaseAta, .buy | .userQuoteAta, .sell => 5
  | .cpmm =>
      match role, side with
      | .user, _ => 0
      | .userBaseAta, .sell | .userQuoteAta, .buy => 4
      | .userBaseAta, .buy | .userQuoteAta, .sell => 5
  | .whirlpool =>
      match role, side with
      -- the authority of the two token accounts
      | .user, _ => 1
      | .userBaseAta, .sell | .userQuoteAta, .buy => 3
      | .userBaseAta, .buy | .userQuoteAta, .sell => 5

/-- The account that the builder of an exchange puts there. -/
def source (role : Role) (base : ℕ) : DexKind → ℕ
  | .pumpSwap =>
      match role with
      | .user => base + pumpBuyUser
      | .userBaseAta => base + pumpBuyUserBaseAta
      | .userQuoteAta => base + pumpBuyUserQuoteAta
  | .dlmm | .cpmm => role.sharedIdx
  | .whirlpool =>
      match role with
      | .user => base + 1
      | .userBaseAta | .userQuoteAta => role.sharedIdx

end Role

/-- The reference at a position has the key of the account at an index. -/
def Names (accounts : List AccountInfo) (instruction : Instruction) (position index : ℕ) :
    Prop :=
  ∃ info, accounts[index]? = some info ∧
    (instruction.accounts[position]?).map AccountMeta.pubkey = some info.key

/-- Two accounts are views of one. -/
def SameAccount (accounts : List AccountInfo) (left right : ℕ) : Prop :=
  ∃ info other, accounts[left]? = some info ∧ accounts[right]? = some other ∧
    info.key = other.key

section

variable {accounts : List AccountInfo} {instruction : Instruction} {position index other : ℕ}

theorem names_of_asMeta {info : AccountInfo} {writable : Bool}
    (present : accounts[index]? = some info)
    (entry : instruction.accounts[position]? = some (Cpi.asMeta info writable)) :
    Names accounts instruction position index := by
  refine ⟨info, present, ?_⟩
  rw [entry, Option.map_some, Cpi.asMeta_pubkey]

/-- What is named is another account exactly when the two are views of one. -/
theorem names_iff (names : Names accounts instruction position index) :
    Names accounts instruction position other ↔ SameAccount accounts index other := by
  rcases names with ⟨info, present, named⟩
  constructor
  · intro again
    rcases again with ⟨info', present', named'⟩
    exact ⟨info, info', present, present', Option.some.inj (named.symm.trans named')⟩
  · intro same
    rcases same with ⟨info', info'', present', present'', key⟩
    rw [present, Option.some.injEq] at present'
    exact ⟨info'', present'', by rw [named, present', key]⟩

end

/-! ## What the builders name -/

section

variable {accounts : List AccountInfo} {instruction : Instruction} {base remaining : ℕ}
  {amountIn minimum : UInt64}

theorem names_dlmm {xMint yMint xProgram yProgram : ℕ} (role : Role) (side : Side)
    (built : Cpi.Dlmm.buildSwap2 accounts base amountIn xMint yMint xProgram yProgram userIdx
      side.input side.output remaining = .ok instruction) :
    Names accounts instruction (role.position side .dlmm) (role.source base .dlmm) := by
  have slot {position idx : ℕ} {writable : Bool}
      (entry : (Cpi.Dlmm.swap2Slots base xMint yMint xProgram yProgram userIdx side.input
        side.output)[position]? = some (idx, writable)) :
      Names accounts instruction position idx := by
    rcases Cpi.Dlmm.buildSwap2_getElem? built entry with ⟨info, present, found⟩
    exact names_of_asMeta present found
  cases role with
  | user => exact slot rfl
  | userBaseAta =>
      cases side with
      | buy => exact slot rfl
      | sell => exact slot rfl
  | userQuoteAta =>
      cases side with
      | buy => exact slot rfl
      | sell => exact slot rfl

theorem names_cpmm {inMint outMint inProg outProg memo : ℕ} (role : Role) (side : Side)
    (built : Cpi.Cpmm.buildSwap accounts base amountIn minimum userIdx inMint outMint
      side.input side.output inProg outProg memo = .ok instruction) :
    Names accounts instruction (role.position side .cpmm) (role.source base .cpmm) := by
  have slot {position idx : ℕ} {writable : Bool}
      (entry : (Cpi.Cpmm.swapSlots base userIdx inMint outMint side.input side.output inProg
        outProg memo)[position]? = some (idx, writable)) :
      Names accounts instruction position idx := by
    rcases Cpi.Cpmm.buildSwap_getElem? built entry with ⟨info, present, found⟩
    exact names_of_asMeta present found
  cases role with
  | user => exact slot rfl
  | userBaseAta =>
      cases side with
      | buy => exact slot rfl
      | sell => exact slot rfl
  | userQuoteAta =>
      cases side with
      | buy => exact slot rfl
      | sell => exact slot rfl

theorem names_whirlpool {progA : ℕ} (progB : ℕ) {aToB : Bool} (role : Role) (side : Side)
    (built : Cpi.Whirlpool.buildSwap accounts base remaining amountIn minimum aToB progA
      progB side.input side.output = .ok instruction) :
    Names accounts instruction (role.position side .whirlpool)
      (role.source base .whirlpool) := by
  have slot {position idx : ℕ} {isSigner writable : Bool}
      (entry : ∃ info, accounts[idx]? = some info ∧
        instruction.accounts[position]? = some ⟨info.key, isSigner, writable⟩) :
      Names accounts instruction position idx := by
    rcases entry with ⟨info, present, found⟩
    exact ⟨info, present, by rw [found, Option.map_some]⟩
  rcases Cpi.Whirlpool.buildSwap_named progB built with ⟨authority, input, output⟩
  cases role with
  | user => exact slot authority
  | userBaseAta =>
      cases side with
      | buy => exact slot output
      | sell => exact slot input
  | userQuoteAta =>
      cases side with
      | buy => exact slot input
      | sell => exact slot output

/-- Without an override the copies of the section are named. -/
theorem names_pumpSwap {slots : List (ℕ × Bool)} {fixedLen programRel : ℕ}
    {data : List UInt8} (role : Role) (side : Side)
    (copies : slots[1]? = some (1, true) ∧ slots[5]? = some (5, true) ∧
      slots[6]? = some (6, true))
    (built : Cpi.PumpSwap.buildPumpSwap accounts base remaining slots fixedLen programRel data
      none = .ok instruction) :
    Names accounts instruction (role.position side .pumpSwap)
      (role.source base .pumpSwap) := by
  have slot {position rel : ℕ} {writable : Bool}
      (entry : slots[position]? = some (rel, writable)) :
      Names accounts instruction position (base + rel) := by
    rcases Cpi.PumpSwap.buildPumpSwap_getElem? built entry with ⟨info, present, found⟩
    exact names_of_asMeta present found
  cases role with
  | user => exact slot copies.1
  | userBaseAta => exact slot copies.2.1
  | userQuoteAta => exact slot copies.2.2

theorem names_buyCpi {kind : DexKind} (role : Role)
    (built : Orchestrate.buyCpi accounts kind base remaining amountIn minimum =
      .ok instruction) :
    Names accounts instruction (role.position .buy kind) (role.source base kind) := by
  cases kind with
  | pumpSwap => exact names_pumpSwap role .buy (by decide) built
  | dlmm => exact names_dlmm role .buy built
  | cpmm => exact names_cpmm role .buy built
  | whirlpool => exact names_whirlpool (base + 11) role .buy built

theorem names_sellCpi {kind : DexKind} (role : Role)
    (built : Orchestrate.sellCpi accounts kind base remaining amountIn minimum =
      .ok instruction) :
    Names accounts instruction (role.position .sell kind) (role.source base kind) := by
  cases kind with
  | pumpSwap => exact names_pumpSwap role .sell (by decide) built
  | dlmm => exact names_dlmm role .sell built
  | cpmm => exact names_cpmm role .sell built
  | whirlpool => exact names_whirlpool (base + 11) role .sell built

end

/-! ## Measured and traded -/

/-- Every instruction of the leg has the account at the index in the position. -/
def Leg.Names (accounts : List AccountInfo) (leg : Leg) (position index : ℕ) : Prop :=
  ∀ amount instruction, leg.build amount = .ok instruction →
    Program.Names accounts instruction position index

/-- What a leg names is the shared account exactly when the account that its builder reads
is a view of it. -/
theorem Leg.names_iff {accounts : List AccountInfo} {leg : Leg} {position index other : ℕ}
    (safe : leg.Safe) (names : leg.Names accounts position index) :
    leg.Names accounts position other ↔ SameAccount accounts index other := by
  constructor
  · intro again
    rcases safe 0 with ⟨instruction, built⟩
    exact (Program.names_iff (names 0 instruction built)).mp (again 0 instruction built)
  · intro same amount instruction built
    exact (Program.names_iff (names amount instruction built)).mpr same

/-- In every handler that accepts the accounts, both legs name the shared account. -/
structure Measured (pda : FindProgramAddress) (accounts : List AccountInfo)
    (data : List UInt8) (role : Role) : Prop where
  pumpToDlmm : ∀ plan, RoutePumpToDlmm.check pda accounts data = .ok plan →
    (RoutePumpToDlmm.buyLeg accounts plan).Names accounts (role.position .buy .pumpSwap)
        role.sharedIdx ∧
      (RoutePumpToDlmm.sellLeg accounts plan).Names accounts (role.position .sell .dlmm)
        role.sharedIdx
  dlmmToPump : ∀ plan, RouteDlmmToPump.check pda accounts data = .ok plan →
    (RouteDlmmToPump.buyLeg accounts plan).Names accounts (role.position .buy .dlmm)
        role.sharedIdx ∧
      (RouteDlmmToPump.sellLeg accounts plan).Names accounts (role.position .sell .pumpSwap)
        role.sharedIdx
  generic : ∀ plan, Orchestrate.check pda accounts data = .ok plan →
    (Orchestrate.buyLeg accounts plan).Names accounts (role.position .buy plan.buyKind)
        role.sharedIdx ∧
      (Orchestrate.sellLeg accounts plan).Names accounts (role.position .sell plan.sellKind)
        role.sharedIdx

/-- In every handler that accepts the accounts, what the sections give in place of the
shared account is a view of it. -/
structure Copied (pda : FindProgramAddress) (accounts : List AccountInfo)
    (data : List UInt8) (role : Role) : Prop where
  pumpToDlmm : ∀ plan, RoutePumpToDlmm.check pda accounts data = .ok plan →
    SameAccount accounts (role.source plan.pumpBase .pumpSwap) role.sharedIdx
  dlmmToPump : ∀ plan, RouteDlmmToPump.check pda accounts data = .ok plan →
    SameAccount accounts (role.source plan.pumpBase .pumpSwap) role.sharedIdx
  generic : ∀ plan, Orchestrate.check pda accounts data = .ok plan →
    SameAccount accounts (role.source plan.buyBase plan.buyKind) role.sharedIdx ∧
      SameAccount accounts (role.source plan.sellBase plan.sellKind) role.sharedIdx

section

variable {pda : FindProgramAddress} {accounts : List AccountInfo} {data : List UInt8}

theorem sameAccount_shared (shared : 3 ≤ accounts.length) (role : Role) :
    SameAccount accounts role.sharedIdx role.sharedIdx := by
  have inside : role.sharedIdx < accounts.length := by
    cases role <;> simp [Role.sharedIdx] <;> omega
  have present := List.getElem?_eq_getElem inside
  exact ⟨_, _, present, present, rfl⟩

theorem RoutePumpToDlmm.names_iff {plan : LegacyPlan} (role : Role)
    (checked : RoutePumpToDlmm.check pda accounts data = .ok plan) :
    (buyLeg accounts plan).Names accounts (role.position .buy .pumpSwap) role.sharedIdx ∧
        (sellLeg accounts plan).Names accounts (role.position .sell .dlmm) role.sharedIdx ↔
      SameAccount accounts (role.source plan.pumpBase .pumpSwap) role.sharedIdx := by
  rcases safe_legs checked with ⟨buySafe, sellSafe⟩
  rcases check_eq_ok.mp checked with ⟨_, _, _, _, _, inside, _⟩
  rw [Leg.names_iff buySafe fun _ _ built => names_pumpSwap role .buy (by decide) built,
    Leg.names_iff sellSafe fun _ _ built => names_dlmm role .sell built]
  exact and_iff_left (sameAccount_shared (by omega) role)

theorem RouteDlmmToPump.names_iff {plan : LegacyPlan} (role : Role)
    (checked : RouteDlmmToPump.check pda accounts data = .ok plan) :
    (buyLeg accounts plan).Names accounts (role.position .buy .dlmm) role.sharedIdx ∧
        (sellLeg accounts plan).Names accounts (role.position .sell .pumpSwap)
          role.sharedIdx ↔
      SameAccount accounts (role.source plan.pumpBase .pumpSwap) role.sharedIdx := by
  rcases safe_legs checked with ⟨buySafe, sellSafe⟩
  rcases check_eq_ok.mp checked with ⟨_, _, _, _, _, inside, _⟩
  rw [Leg.names_iff buySafe fun _ _ built => names_dlmm role .buy built,
    Leg.names_iff sellSafe fun _ _ built => names_pumpSwap role .sell (by decide) built]
  exact and_iff_right (sameAccount_shared (by omega) role)

theorem Orchestrate.names_iff {plan : Orchestrate.Plan} (role : Role)
    (checked : Orchestrate.check pda accounts data = .ok plan) :
    (buyLeg accounts plan).Names accounts (role.position .buy plan.buyKind) role.sharedIdx ∧
        (sellLeg accounts plan).Names accounts (role.position .sell plan.sellKind)
          role.sharedIdx ↔
      SameAccount accounts (role.source plan.buyBase plan.buyKind) role.sharedIdx ∧
        SameAccount accounts (role.source plan.sellBase plan.sellKind) role.sharedIdx := by
  rcases safe_legs checked with ⟨buySafe, sellSafe⟩
  rw [Leg.names_iff buySafe fun _ _ built => names_buyCpi role built,
    Leg.names_iff sellSafe fun _ _ built => names_sellCpi role built]

/-- The legs trade with the shared account exactly when the sections copy it. -/
theorem measured_iff_copied (pda : FindProgramAddress) (accounts : List AccountInfo)
    (data : List UInt8) (role : Role) :
    Measured pda accounts data role ↔ Copied pda accounts data role := by
  constructor
  · intro measured
    constructor
    · intro plan checked
      exact (RoutePumpToDlmm.names_iff role checked).mp (measured.pumpToDlmm plan checked)
    · intro plan checked
      exact (RouteDlmmToPump.names_iff role checked).mp (measured.dlmmToPump plan checked)
    · intro plan checked
      exact (Orchestrate.names_iff role checked).mp (measured.generic plan checked)
  · intro copied
    constructor
    · intro plan checked
      exact (RoutePumpToDlmm.names_iff role checked).mpr (copied.pumpToDlmm plan checked)
    · intro plan checked
      exact (RouteDlmmToPump.names_iff role checked).mpr (copied.dlmmToPump plan checked)
    · intro plan checked
      exact (Orchestrate.names_iff role checked).mpr (copied.generic plan checked)

/-- The sample accounts with another wrapped SOL account in the PumpSwap section. -/
def strayAccounts : List AccountInfo := sampleAccounts.set 19 (samplePlain (.ofNat 99))

/-- All checks accept it, and the proceeds of the sale go where no balance is compared. -/
theorem not_measured_stray :
    ¬∀ role, Measured samplePda strayAccounts sampleData role := by
  intro measured
  obtain ⟨plan, checked⟩ := exists_of_isOk
    (show (RouteDlmmToPump.check samplePda strayAccounts sampleData).isOk = true by
      decide +kernel)
  rcases RouteDlmmToPump.check_eq_ok.mp checked with ⟨_, decoded, _, _, pumpBase, _⟩
  rw [← decoded] at pumpBase
  have same := (RouteDlmmToPump.names_iff .userQuoteAta checked).mp
    ((measured .userQuoteAta).dlmmToPump plan checked)
  rw [pumpBase] at same
  rcases same with ⟨copy, shared, copyAt, sharedAt, key⟩
  have keys : (strayAccounts[19]?).map AccountInfo.key =
      (strayAccounts[1]?).map AccountInfo.key := by
    rw [show strayAccounts[19]? = some copy from copyAt,
      show strayAccounts[1]? = some shared from sharedAt, Option.map_some, Option.map_some, key]
  exact absurd keys (by decide +kernel)

end

end AtomicArbitrage.Program

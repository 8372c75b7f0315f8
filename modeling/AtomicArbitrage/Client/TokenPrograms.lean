import AtomicArbitrage.Client.GenericRoute

/-!
# Token programs of a section

A mint belongs to one of the two token programs.  The CPMM section names the programs of
the mint that goes in and of the mint that comes out, the DLMM section those of token X and
of token Y.  Both are written for one orientation of the trade and are pushed for every one.
-/

namespace AtomicArbitrage.Client

/-! ## Which program a mint belongs to -/

/-- The token program that owns each mint of a trade. -/
structure MintPrograms (args : GenericArgs) (programOf : Pubkey → Pubkey) : Prop where
  solMint : args.solMint = .ofLiteral nativeSolMint
  sol : programOf args.solMint = .ofLiteral tokenProgram
  meme : programOf args.memeMint = args.memeTokenProgram
  solProgram : args.solTokenProgram = .ofLiteral tokenProgram
  standard : args.memeTokenProgram = .ofLiteral tokenProgram ∨
    args.memeTokenProgram = .ofLiteral token22Program

/-- The accounts at two offsets are a mint and its token program. -/
def MatchesAt (programOf : Pubkey → Pubkey) (accounts : List AccountMeta)
    (mintOffset programOffset : Nat) : Prop :=
  ∃ mint program, accounts[mintOffset]? = some mint ∧ accounts[programOffset]? = some program ∧
    program.pubkey = programOf mint.pubkey

theorem tokenProgram_ne_token22 :
    Pubkey.ofLiteral tokenProgram ≠ .ofLiteral token22Program := by
  rw [ofLiteral_tokenProgram, ofLiteral_token22Program]
  decide +kernel

/-! ## Sections -/

/-- The side of the trade that a section is for. -/
inductive Leg where
  | buy
  | sell
deriving DecidableEq

/-- The accounts that `build_generic_route` pushes for one leg. -/
def legSection (pda : FindProgramAddress) (args : GenericArgs) (leg : Leg) (resolved : Section) :
    ClientResult (List AccountMeta) :=
  match leg with
  | .buy => buySection pda args resolved.kindByte resolved.side
  | .sell => sellSection pda args resolved.kindByte resolved.side

/-- A pool for which a section names token programs. -/
inductive TokenPool where
  | cpmm (data : CpmmSectionData)
  | dlmm (reserves : DlmmPoolReserves)

namespace TokenPool

/-- The section of a pool: a cached DLMM pool is resolved first. -/
def push (pda : FindProgramAddress) (args : GenericArgs) (leg : Leg) :
    TokenPool → ClientResult (List AccountMeta)
  | cpmm data => legSection pda args leg (.cpmm data)
  | dlmm reserves => do
      let data ← dlmmSectionData pda reserves args.memeTokenProgram
      legSection pda args leg (.dlmm data)

/-- Where a section has its two mints, each with its token program. -/
def slots : TokenPool → List (Nat × Nat)
  | cpmm _ => [(8, 10), (9, 11)]
  | dlmm _ => [(9, 11), (10, 12)]

/-- The token programs of a section are those of its mints. -/
def Matches (programOf : Pubkey → Pubkey) (pool : TokenPool) (accounts : List AccountMeta) :
    Prop :=
  ∀ slot ∈ pool.slots, MatchesAt programOf accounts slot.1 slot.2

/-- The pool trades the token against SOL. -/
def Trades (args : GenericArgs) : TokenPool → Prop
  | cpmm _ => True
  | dlmm reserves =>
      reserves.tokenXMint = nativeSolMint ∧
          Pubkey.fromStr? reserves.tokenYMint = some args.memeMint ∨
        reserves.tokenYMint = nativeSolMint ∧
          Pubkey.fromStr? reserves.tokenXMint = some args.memeMint

/-- The orientation that a section is written for.  A CPMM section takes Tokenkeg in and
Token-2022 out; a DLMM section has SOL as token X, or two mints of Tokenkeg. -/
def Oriented (args : GenericArgs) (leg : Leg) : TokenPool → Prop
  | cpmm _ => leg = .buy ∧ args.memeTokenProgram = .ofLiteral token22Program
  | dlmm reserves =>
      reserves.tokenXMint = nativeSolMint ∨
        args.memeTokenProgram = .ofLiteral tokenProgram

end TokenPool

section

variable {pda : FindProgramAddress} {args : GenericArgs} {programOf : Pubkey → Pubkey}

/-! ## CPMM -/

theorem matches_pushCpmmAccounts {pool inputMint outputMint inputAta outputAta memoProg
    token22 ammConfig : Pubkey} (data : CpmmSectionData) :
    (TokenPool.cpmm data).Matches programOf
        (pushCpmmAccounts pda pool inputMint outputMint inputAta outputAta memoProg token22
          ammConfig) ↔
      Pubkey.ofLiteral tokenProgram = programOf inputMint ∧ token22 = programOf outputMint := by
  simp [TokenPool.Matches, TokenPool.slots, MatchesAt, pushCpmmAccounts]

theorem matches_cpmm_iff (owned : MintPrograms args programOf) (leg : Leg)
    {data : CpmmSectionData} {accounts : List AccountMeta}
    (pushed : (TokenPool.cpmm data).push pda args leg = .ok accounts) :
    (TokenPool.cpmm data).Matches programOf accounts ↔
      (TokenPool.cpmm data).Oriented args leg := by
  cases leg with
  | buy =>
      cases pushed
      rw [matches_pushCpmmAccounts, owned.sol, owned.meme]
      simp only [TokenPool.Oriented, true_and]
      exact eq_comm
  | sell =>
      cases pushed
      rw [matches_pushCpmmAccounts, owned.sol]
      apply iff_of_false
      · intro same
        exact tokenProgram_ne_token22 same.2.symm
      · intro oriented
        cases oriented.1

/-! ## DLMM -/

theorem matches_pushDlmmGenericAccounts (reserves : DlmmPoolReserves) (data : DlmmSectionData) :
    (TokenPool.dlmm reserves).Matches programOf (pushDlmmGenericAccounts data) ↔
      data.tokenXProgram = programOf data.tokenXMint ∧
        data.tokenYProgram = programOf data.tokenYMint := by
  simp [TokenPool.Matches, TokenPool.slots, MatchesAt, pushDlmmGenericAccounts,
    dlmmGenericFixed]

/-- The mints and token programs that the resolver fills in. -/
theorem dlmmSectionData_mints {reserves : DlmmPoolReserves} {memeTokenProgram : Pubkey}
    {data : DlmmSectionData}
    (resolved : dlmmSectionData pda reserves memeTokenProgram = .ok data) :
    Pubkey.fromStr? reserves.tokenXMint = some data.tokenXMint ∧
      Pubkey.fromStr? reserves.tokenYMint = some data.tokenYMint ∧
      data.tokenXProgram = .ofLiteral tokenProgram ∧ data.tokenYProgram = memeTokenProgram := by
  simp only [dlmmSectionData, Outcome.bind_eq_ok, Outcome.pure_eq_ok, parsePubkey_eq_ok]
    at resolved
  rcases resolved with ⟨_, _, _, _, _, _, x, parsedX, y, parsedY, _, _, rfl⟩
  exact ⟨parsedX, parsedY, rfl, rfl⟩

/-- What the native mint parses to. -/
theorem eq_solMint (owned : MintPrograms args programOf) {text : String} {mint : Pubkey}
    (native : text = nativeSolMint) (parsed : Pubkey.fromStr? text = some mint) :
    mint = args.solMint := by
  rw [owned.solMint, Pubkey.ofLiteral, ← native, parsed, Option.getD_some]

theorem matches_dlmm_iff (owned : MintPrograms args programOf) (leg : Leg)
    {reserves : DlmmPoolReserves} {accounts : List AccountMeta}
    (trades : (TokenPool.dlmm reserves).Trades args)
    (pushed : (TokenPool.dlmm reserves).push pda args leg = .ok accounts) :
    (TokenPool.dlmm reserves).Matches programOf accounts ↔
      (TokenPool.dlmm reserves).Oriented args leg := by
  rcases Outcome.bind_eq_ok.mp pushed with ⟨data, resolved, built⟩
  have same : accounts = pushDlmmGenericAccounts data := by
    cases leg with
    | buy => cases built; rfl
    | sell => cases built; rfl
  rcases dlmmSectionData_mints resolved with ⟨parsedX, parsedY, programX, programY⟩
  rw [same, matches_pushDlmmGenericAccounts, programX, programY, TokenPool.Oriented]
  cases trades with
  | inl solIsX =>
      rw [solIsX.2, Option.some.injEq] at parsedY
      rw [eq_solMint owned solIsX.1 parsedX, ← parsedY, owned.sol, owned.meme]
      exact iff_of_true ⟨rfl, rfl⟩ (.inl solIsX.1)
  | inr solIsY =>
      rw [solIsY.2, Option.some.injEq] at parsedX
      rw [eq_solMint owned solIsY.1 parsedY, ← parsedX, owned.sol, owned.meme]
      constructor
      · intro agree
        exact .inr agree.2
      · intro oriented
        have tokenkeg : args.memeTokenProgram = .ofLiteral tokenProgram := by
          cases oriented with
          | inl native =>
              rw [native] at solIsY
              rw [← owned.meme, eq_solMint owned rfl solIsY.2, owned.sol]
          | inr tokenkeg => exact tokenkeg
        exact ⟨tokenkeg.symm, tokenkeg⟩

end

/-! ## All sections -/

/-- A section names the token programs of its mints exactly in the orientation that it is
written for. -/
theorem tokenPrograms_match_iff {pda : FindProgramAddress} {args : GenericArgs}
    {programOf : Pubkey → Pubkey} (owned : MintPrograms args programOf) (leg : Leg)
    {pool : TokenPool} (trades : pool.Trades args) {accounts : List AccountMeta}
    (pushed : pool.push pda args leg = .ok accounts) :
    pool.Matches programOf accounts ↔ pool.Oriented args leg := by
  cases pool with
  | cpmm data => exact matches_cpmm_iff owned leg pushed
  | dlmm reserves => exact matches_dlmm_iff owned leg trades pushed

/-- A trade of a token that belongs to one of the token programs. -/
def tokenArgs (memeTokenProgram : Pubkey) : GenericArgs where
  walletPubkey := .ofNat 60
  userSolAta := .ofNat 61
  userMemeAta := .ofNat 62
  memeMint := .ofNat 63
  solMint := .ofLiteral nativeSolMint
  investmentLamports := 1000
  minMemeOut := 150
  minProfitLamports := 500
  buySolIsX := true
  memeTokenProgram := memeTokenProgram
  solTokenProgram := .ofLiteral tokenProgram
  onchainProgramId := memoProgram

def tokenPool : TokenPool := .cpmm { pool := .ofNat 64, config := .ofLiteral cpmmAmmConfig }

/-- SOL belongs to Tokenkeg, every other mint to Token-2022. -/
def token22Of (mint : Pubkey) : Pubkey :=
  if mint = .ofLiteral nativeSolMint then .ofLiteral tokenProgram else .ofLiteral token22Program

theorem mintPrograms_token22 :
    MintPrograms (tokenArgs (.ofLiteral token22Program)) token22Of where
  solMint := rfl
  sol := if_pos rfl
  meme := if_neg (by
    rw [ofLiteral_nativeSolMint]
    decide +kernel)
  solProgram := rfl
  standard := .inr rfl

theorem mintPrograms_tokenkeg :
    MintPrograms (tokenArgs (.ofLiteral tokenProgram)) (fun _ => .ofLiteral tokenProgram) where
  solMint := rfl
  sol := rfl
  meme := rfl
  solProgram := rfl
  standard := .inl rfl

/-- A token of Token-2022 is bought with its own program. -/
theorem tokenPrograms_match_token22 :
    ∃ accounts,
      tokenPool.push (fun _ program => program) (tokenArgs (.ofLiteral token22Program)) .buy =
        .ok accounts ∧
      tokenPool.Matches token22Of accounts := by
  refine ⟨_, rfl, ?_⟩
  have trades : tokenPool.Trades (tokenArgs (.ofLiteral token22Program)) := trivial
  exact (tokenPrograms_match_iff mintPrograms_token22 .buy trades rfl).mpr ⟨rfl, rfl⟩

/-- A token of Tokenkeg is bought with the other program. -/
theorem not_tokenPrograms_match :
    ¬∀ (pda : FindProgramAddress) (args : GenericArgs) (programOf : Pubkey → Pubkey),
      MintPrograms args programOf → ∀ (leg : Leg) (pool : TokenPool), pool.Trades args →
        ∀ accounts, pool.push pda args leg = .ok accounts → pool.Matches programOf accounts := by
  intro all
  have same := (matches_pushCpmmAccounts _).mp (all (fun _ program => program) _ _
    mintPrograms_tokenkeg .buy tokenPool trivial _ rfl)
  exact tokenProgram_ne_token22 same.2.symm

/-! ## The direct builders -/

/-- The two token programs that the direct builders pass to `build_dlmm_swap2_ix`. -/
def directTokenPrograms (reserves : DlmmPoolReserves) (solTokenProgram memeTokenProgram : Pubkey) :
    Pubkey × Pubkey :=
  let tokenXProgram :=
    if reserves.tokenXMint = nativeSolMint then solTokenProgram else memeTokenProgram
  let tokenYProgram :=
    if reserves.tokenYMint = nativeSolMint then solTokenProgram else memeTokenProgram
  (tokenXProgram, tokenYProgram)

section

variable {args : GenericArgs} {programOf : Pubkey → Pubkey}

/-- The choice by the mint is right for SOL and for the token. -/
theorem directProgram_eq (owned : MintPrograms args programOf) {text : String} {mint : Pubkey}
    (parsed : Pubkey.fromStr? text = some mint)
    (known : text = nativeSolMint ∨ mint = args.memeMint) :
    (if text = nativeSolMint then args.solTokenProgram else args.memeTokenProgram) =
      programOf mint := by
  by_cases native : text = nativeSolMint
  · rw [if_pos native, eq_solMint owned native parsed, owned.sol, owned.solProgram]
  · rw [if_neg native, known.resolve_left native, owned.meme]

/-- The direct builders name the token programs of the mints in every orientation. -/
theorem directTokenPrograms_eq (owned : MintPrograms args programOf)
    {reserves : DlmmPoolReserves} (trades : (TokenPool.dlmm reserves).Trades args)
    {tokenXMint tokenYMint : Pubkey}
    (parsedX : Pubkey.fromStr? reserves.tokenXMint = some tokenXMint)
    (parsedY : Pubkey.fromStr? reserves.tokenYMint = some tokenYMint) :
    directTokenPrograms reserves args.solTokenProgram args.memeTokenProgram =
      (programOf tokenXMint, programOf tokenYMint) := by
  have known :
      (reserves.tokenXMint = nativeSolMint ∨ tokenXMint = args.memeMint) ∧
        (reserves.tokenYMint = nativeSolMint ∨ tokenYMint = args.memeMint) := by
    cases trades with
    | inl solIsX =>
        rw [solIsX.2, Option.some.injEq] at parsedY
        exact ⟨.inl solIsX.1, .inr parsedY.symm⟩
    | inr solIsY =>
        rw [solIsY.2, Option.some.injEq] at parsedX
        exact ⟨.inr parsedX.symm, .inl solIsY.1⟩
  simp only [directTokenPrograms]
  rw [directProgram_eq owned parsedX known.1, directProgram_eq owned parsedY known.2]

end

end AtomicArbitrage.Client

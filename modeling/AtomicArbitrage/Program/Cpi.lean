import AtomicArbitrage.Library.Segment
import AtomicArbitrage.Library.Word64
import AtomicArbitrage.Program.Constants

/-!
# CPI builders

The four builders of the program's `cpi` modules.  Each reads accounts at a base plus
fixed offsets and at indices chosen by its caller; every read may be out of range, in
which case the program panics.  A builder reads its references through `metas`, so one
inversion and one evaluation rule serve all of them.
-/

namespace AtomicArbitrage.Program.Cpi

open Outcome Word64

variable {accounts : List AccountInfo}

/-- The reference a builder makes of an account view: the view's key and signer flag,
with the writable flag the builder chose. -/
def asMeta (info : AccountInfo) (writable : Bool) : AccountMeta :=
  if writable then .new info.key info.isSigner else .newReadonly info.key info.isSigner

@[simp] theorem asMeta_pubkey (info : AccountInfo) (writable : Bool) :
    (asMeta info writable).pubkey = info.key := by
  cases writable <;> rfl

@[simp] theorem asMeta_isSigner (info : AccountInfo) (writable : Bool) :
    (asMeta info writable).isSigner = info.isSigner := by
  cases writable <;> rfl

/-- A view whose writable flag is kept refers to the account as it was referred to. -/
theorem asMeta_view (owner : Pubkey → Pubkey) (reference : AccountMeta) :
    asMeta (view owner reference) reference.isWritable = reference := by
  rcases reference with ⟨pubkey, isSigner, isWritable⟩
  cases isWritable <;> rfl

/-- `acct`: the reference to the account at an absolute index. -/
def acct (accounts : List AccountInfo) (idx : Nat) (writable : Bool) : Exec AccountMeta := do
  let a ← account accounts idx
  pure (asMeta a writable)

/-- The references of a list of absolute indices with chosen writable flags. -/
def metas (accounts : List AccountInfo) (slots : List (Nat × Bool)) :
    Exec (List AccountMeta) :=
  slots.mapM fun slot => acct accounts slot.1 slot.2

/-- The references of `count` consecutive accounts, each with the writable flag that
`writable` chooses for its view. -/
def trailingMetas (accounts : List AccountInfo) (start count : Nat)
    (writable : AccountInfo → Bool) : Exec (List AccountMeta) :=
  (List.range count).mapM fun i => do
    let a ← account accounts (start + i)
    pure (asMeta a (writable a))

theorem acct_eq_ok {idx : Nat} {writable : Bool} {reference : AccountMeta} :
    acct accounts idx writable = .ok reference ↔
      ∃ info, accounts[idx]? = some info ∧ asMeta info writable = reference := by
  simp [acct]

/-- Reading an account that is present. -/
theorem account_of_lt {index : Nat} (inside : index < accounts.length) :
    account accounts index = .ok (accounts.getD index default) := by
  rw [account_eq_ok, List.getD_eq_getElem?_getD, List.getElem?_eq_getElem inside]
  rfl

/-- All slots in range: the references are read off one by one. -/
theorem metas_eq {slots : List (Nat × Bool)}
    (inside : ∀ slot ∈ slots, slot.1 < accounts.length) :
    metas accounts slots =
      .ok (slots.map fun slot => asMeta (accounts.getD slot.1 default) slot.2) := by
  refine mapM_eq_map fun slot membership => ?_
  rw [acct_eq_ok]
  refine ⟨accounts.getD slot.1 default, ?_, rfl⟩
  rw [List.getD_eq_getElem?_getD, List.getElem?_eq_getElem (inside slot membership)]
  rfl

/-- The reference in each position comes from the view its slot names. -/
theorem metas_getElem? {slots : List (Nat × Bool)} {references : List AccountMeta}
    (built : metas accounts slots = .ok references) (position : Nat) (slot : Nat × Bool)
    (entry : slots[position]? = some slot) :
    ∃ info, accounts[slot.1]? = some info ∧
      references[position]? = some (asMeta info slot.2) := by
  have related := mapM_eq_ok.mp built
  clear built
  induction related generalizing position with
  | nil => simp at entry
  | @cons head reference slots references headBuilt _ ih =>
      cases position with
      | zero =>
          obtain rfl : head = slot := by simpa using entry
          rcases acct_eq_ok.mp headBuilt with ⟨info, position, rfl⟩
          exact ⟨info, position, by simp⟩
      | succ position =>
          rw [List.getElem?_cons_succ] at entry ⊢
          exact ih position entry

theorem metas_length {slots : List (Nat × Bool)} {references : List AccountMeta}
    (built : metas accounts slots = .ok references) : references.length = slots.length :=
  (mapM_eq_ok.mp built).length_eq.symm

/-- Consecutive accounts that form a block are referred to in the block's order. -/
theorem trailingMetas_at {start : Nat} {block : List AccountInfo}
    {writable : AccountInfo → Bool} (placed : Segment.At accounts start block) :
    trailingMetas accounts start block.length writable =
      .ok (block.map fun info => asMeta info (writable info)) := by
  have read : ∀ i ∈ List.range block.length,
      (do let a ← account accounts (start + i); pure (asMeta a (writable a)) : Exec _) =
        .ok (asMeta (block.getD i default) (writable (block.getD i default))) := by
    intro i membership
    have inside : i < block.length := List.mem_range.mp membership
    have entry : accounts[start + i]? = some (block.getD i default) := by
      rw [placed.getElem? inside, List.getD_eq_getElem?_getD, List.getElem?_eq_getElem inside]
      rfl
    simp [account, entry]
  rw [trailingMetas, mapM_eq_map read, Except.ok.injEq]
  refine List.ext_getElem (by simp) fun i _ inside => ?_
  rw [List.length_map] at inside
  simp [List.getElem?_eq_getElem inside]

/-- A builder never invents a signer: a reference flagged as signer has the key of an
account view that is a signer. -/
def SignersFrom (accounts : List AccountInfo) (references : List AccountMeta) : Prop :=
  ∀ reference ∈ references, reference.isSigner = true →
    ∃ info ∈ accounts, info.key = reference.pubkey ∧ info.isSigner = true

theorem SignersFrom.append {first second : List AccountMeta}
    (left : SignersFrom accounts first) (right : SignersFrom accounts second) :
    SignersFrom accounts (first ++ second) := by
  intro reference membership
  rcases List.mem_append.mp membership with inFirst | inSecond
  · exact left reference inFirst
  · exact right reference inSecond

/-- References copied from account views bring no signer of their own. -/
theorem signersFrom_of_views {references : List AccountMeta}
    (copied : ∀ reference ∈ references, ∃ info ∈ accounts, ∃ writable,
      asMeta info writable = reference) : SignersFrom accounts references := by
  intro reference membership signs
  rcases copied reference membership with ⟨info, present, writable, rfl⟩
  exact ⟨info, present, by simp, by simpa using signs⟩

theorem metas_signersFrom {slots : List (Nat × Bool)} {references : List AccountMeta}
    (built : metas accounts slots = .ok references) : SignersFrom accounts references := by
  refine signersFrom_of_views fun reference membership => ?_
  rcases mapM_mem built membership with ⟨slot, _, slotBuilt⟩
  rcases acct_eq_ok.mp slotBuilt with ⟨info, position, rfl⟩
  exact ⟨info, List.mem_of_getElem? position, slot.2, rfl⟩

theorem trailingMetas_signersFrom {start count : Nat} {writable : AccountInfo → Bool}
    {references : List AccountMeta}
    (built : trailingMetas accounts start count writable = .ok references) :
    SignersFrom accounts references := by
  refine signersFrom_of_views fun reference membership => ?_
  rcases mapM_mem built membership with ⟨i, _, stepBuilt⟩
  simp only [bind_eq_ok, account_eq_ok, pure_eq_ok] at stepBuilt
  rcases stepBuilt with ⟨info, position, rfl⟩
  exact ⟨info, List.mem_of_getElem? position, writable info, rfl⟩

/-! ## What an instruction asks for

Every CPI of the program carries the amount to swap at bytes 8 to 16 of its data and
the minimum output at bytes 16 to 24. -/

/-- The amount an exchange is asked to swap. -/
def amountIn (instruction : Instruction) : UInt64 := readAt instruction.data 8

/-- The least output an exchange is asked to deliver. -/
def minAmountOut (instruction : Instruction) : UInt64 := readAt instruction.data 16

/-- The head of an instruction's data: which operation, which amount, which minimum. -/
structure Asks (instruction : Instruction) (disc : List UInt8) (amount minimum : UInt64) :
    Prop where
  disc : instruction.data.take 8 = disc
  amountIn : Cpi.amountIn instruction = amount
  minAmountOut : Cpi.minAmountOut instruction = minimum

/-- The common head of all four data layouts. -/
theorem asks_of_data {instruction : Instruction} (disc rest : List UInt8)
    {amount minimum : UInt64} (width : disc.length = 8)
    (layout : instruction.data = disc ++ (bytes amount ++ (bytes minimum ++ rest))) :
    Asks instruction disc amount minimum where
  disc := by rw [layout, ← width, List.take_left]
  amountIn := by rw [Cpi.amountIn, layout, readAt_field width]
  minAmountOut := by rw [Cpi.minAmountOut, layout, readAt_second (by omega)]

/-! ## DLMM `swap2` -/

namespace Dlmm

/-- The `swap2` data: discriminator, amount, a minimum output of one unit whatever the
caller wants, and an empty `remaining_accounts_info`. -/
def swap2Data (amountIn : UInt64) : List UInt8 :=
  dlmmSwap2Disc ++ (bytes amountIn ++ (bytes 1 ++ encode 4 0))

/-- The sixteen fixed references of `swap2`, as absolute indices with writable flags. -/
def swap2Slots (dlmmBase tokenXMintIdx tokenYMintIdx tokenXProgramIdx tokenYProgramIdx
    userIdx userTokenInIdx userTokenOutIdx : Nat) : List (Nat × Bool) :=
  [(dlmmBase + dlmmLbPairRel, true),
   (dlmmBase + dlmmBitmapRel, true),
   (dlmmBase + dlmmReserveXRel, true),
   (dlmmBase + dlmmReserveYRel, true),
   (userTokenInIdx, true),
   (userTokenOutIdx, true),
   (tokenXMintIdx, false),
   (tokenYMintIdx, false),
   (dlmmBase + dlmmOracleRel, true),
   (dlmmBase + dlmmHostFeeRel, true),
   (userIdx, false),
   (tokenXProgramIdx, false),
   (tokenYProgramIdx, false),
   (dlmmBase + dlmmMemoRel, false),
   (dlmmBase + dlmmEventAuthRel, false),
   (dlmmBase + dlmmProgramRel, false)]

/-- `build_swap2`.  The bin arrays are read from offset nine of the section on. -/
def buildSwap2 (accounts : List AccountInfo) (dlmmBase : Nat) (amountIn : UInt64)
    (tokenXMintIdx tokenYMintIdx tokenXProgramIdx tokenYProgramIdx : Nat)
    (userIdx userTokenInIdx userTokenOutIdx : Nat) (binArrayCount : Nat) :
    Exec Instruction := do
  let fixed ← metas accounts (swap2Slots dlmmBase tokenXMintIdx tokenYMintIdx
    tokenXProgramIdx tokenYProgramIdx userIdx userTokenInIdx userTokenOutIdx)
  let bins ← trailingMetas accounts (dlmmBase + dlmmBinArraysStartRel) binArrayCount
    fun _ => true
  let program ← account accounts (dlmmBase + dlmmProgramRel)
  pure { programId := program.key, accounts := fixed ++ bins, data := swap2Data amountIn }

variable {dlmmBase xMint yMint xProgram yProgram user tokenIn tokenOut bins : Nat}
  {amount : UInt64} {instruction : Instruction}

/-- `swap2` with known fixed references and a known block at offset nine: the block
follows, writable. -/
theorem buildSwap2_eq {fixed : List AccountMeta} {program : AccountInfo}
    {block : List AccountInfo}
    (fixedBuilt : metas accounts (swap2Slots dlmmBase xMint yMint xProgram yProgram user
      tokenIn tokenOut) = .ok fixed)
    (programAt : accounts[dlmmBase]? = some program)
    (placed : Segment.At accounts (dlmmBase + dlmmBinArraysStartRel) block) :
    buildSwap2 accounts dlmmBase amount xMint yMint xProgram yProgram user tokenIn tokenOut
        block.length =
      .ok { programId := program.key
            accounts := fixed ++ block.map fun info => asMeta info true
            data := swap2Data amount } := by
  have read : account accounts (dlmmBase + dlmmProgramRel) = .ok program :=
    account_eq_ok.mpr programAt
  rw [buildSwap2, fixedBuilt, trailingMetas_at placed, read]
  rfl

/-- Whatever its caller's minimum is, `swap2` asks for one unit. -/
theorem buildSwap2_asks
    (built : buildSwap2 accounts dlmmBase amount xMint yMint xProgram yProgram user tokenIn
      tokenOut bins = .ok instruction) : Asks instruction dlmmSwap2Disc amount 1 := by
  simp only [buildSwap2, bind_eq_ok, pure_eq_ok] at built
  rcases built with ⟨_, _, _, _, _, _, rfl⟩
  exact asks_of_data dlmmSwap2Disc (encode 4 0) rfl rfl

/-- The amount reaches the data only: another amount gives the same references. -/
theorem buildSwap2_rebuild
    (built : buildSwap2 accounts dlmmBase amount xMint yMint xProgram yProgram user tokenIn
      tokenOut bins = .ok instruction) (other : UInt64) :
    buildSwap2 accounts dlmmBase other xMint yMint xProgram yProgram user tokenIn tokenOut
      bins = .ok { instruction with data := swap2Data other } := by
  simp only [buildSwap2, bind_eq_ok, pure_eq_ok] at built ⊢
  rcases built with ⟨fixed, fixedBuilt, bins, binsBuilt, program, programAt, rfl⟩
  exact ⟨fixed, fixedBuilt, bins, binsBuilt, program, programAt, rfl⟩

/-- A fixed reference comes from the index of its slot. -/
theorem buildSwap2_getElem? {position idx : Nat} {writable : Bool}
    (built : buildSwap2 accounts dlmmBase amount xMint yMint xProgram yProgram user tokenIn
      tokenOut bins = .ok instruction)
    (entry : (swap2Slots dlmmBase xMint yMint xProgram yProgram user tokenIn
      tokenOut)[position]? = some (idx, writable)) :
    ∃ info, accounts[idx]? = some info ∧
      instruction.accounts[position]? = some (asMeta info writable) := by
  simp only [buildSwap2, bind_eq_ok, pure_eq_ok] at built
  rcases built with ⟨fixed, fixedBuilt, _, _, _, _, rfl⟩
  obtain ⟨info, infoAt, found⟩ := metas_getElem? fixedBuilt position (idx, writable) entry
  refine ⟨info, infoAt, ?_⟩
  rw [List.getElem?_append_left (List.getElem?_eq_some_iff.mp found).1, found]

/-- The user's output account is the sixth reference. -/
theorem buildSwap2_output
    (built : buildSwap2 accounts dlmmBase amount xMint yMint xProgram yProgram user tokenIn
      tokenOut bins = .ok instruction) :
    ∃ info, accounts[tokenOut]? = some info ∧
      instruction.accounts[5]? = some (asMeta info true) :=
  buildSwap2_getElem? built rfl

end Dlmm

/-! ## PumpSwap `buy_exact_quote_in` and `sell` -/

namespace PumpSwap

/-- `build_meta`: offsets relative to the start of the section. -/
def buildMeta (accounts : List AccountInfo) (pumpBase : Nat) (slots : List (Nat × Bool)) :
    Exec (List AccountMeta) :=
  metas accounts (slots.map fun slot => (pumpBase + slot.1, slot.2))

/-- Replace the user's base token account, when the caller overrides it. -/
def overrideUserBaseAta (accounts : List AccountInfo) (references : List AccountMeta) :
    Option Nat → Exec (List AccountMeta)
  | none => pure references
  | some idx => do
      let a ← account accounts idx
      pure (references.set 5 (.new a.key a.isSigner))

def buySlots : List (Nat × Bool) :=
  [(pumpBuyPool, true),
   (pumpBuyUser, true),
   (pumpBuyGlobalConfig, false),
   (pumpBuyBaseMint, false),
   (pumpBuyQuoteMint, false),
   (pumpBuyUserBaseAta, true),
   (pumpBuyUserQuoteAta, true),
   (pumpBuyPoolBaseAta, true),
   (pumpBuyPoolQuoteAta, true),
   (pumpBuyProtocolFeeRecipient, false),
   (pumpBuyProtocolFeeAta, true),
   (pumpBuyBaseTokenProgram, false),
   (pumpBuyQuoteTokenProgram, false),
   (pumpBuySystemProgram, false),
   (pumpBuyAtaProgram, false),
   (pumpBuyEventAuthority, false),
   (pumpBuyProgram, false),
   (pumpBuyCoinCreatorVaultAta, true),
   (pumpBuyCoinCreatorVaultAuth, false),
   (pumpBuyGlobalVolAccum, false),
   (pumpBuyUserVolAccum, true),
   (pumpBuyFeeConfig, false),
   (pumpBuyFeeProgram, false)]

/-- The sell list: the two volume accumulators of the buy list are absent. -/
def sellSlots : List (Nat × Bool) :=
  [(pumpSellPool, true),
   (pumpSellUser, true),
   (pumpSellGlobalConfig, false),
   (pumpSellBaseMint, false),
   (pumpSellQuoteMint, false),
   (pumpSellUserBaseAta, true),
   (pumpSellUserQuoteAta, true),
   (pumpSellPoolBaseAta, true),
   (pumpSellPoolQuoteAta, true),
   (pumpSellProtocolFeeRecipient, false),
   (pumpSellProtocolFeeAta, true),
   (pumpSellBaseTokenProgram, false),
   (pumpSellQuoteTokenProgram, false),
   (pumpSellSystemProgram, false),
   (pumpSellAtaProgram, false),
   (pumpSellEventAuthority, false),
   (pumpSellProgram, false),
   (pumpSellCoinCreatorVaultAta, true),
   (pumpSellCoinCreatorVaultAuth, false),
   (pumpSellFeeConfig, false),
   (pumpSellFeeProgram, false)]

def buyData (amountIn minAmountOut : UInt64) (trackVolume : Bool) : List UInt8 :=
  pumpBuyDisc ++ (bytes amountIn ++ (bytes minAmountOut ++
    [if trackVolume then 1 else 0]))

def sellData (amountIn minAmountOut : UInt64) : List UInt8 :=
  pumpSellDisc ++ (bytes amountIn ++ bytes minAmountOut)

/-- The part that `build_buy` and `build_sell` share: fixed references, the optional
override, and the remaining accounts with the writable flags the client gave them. -/
def buildPumpSwap (accounts : List AccountInfo) (pumpBase pumpRemainingCount : Nat)
    (slots : List (Nat × Bool)) (fixedLen programRel : Nat) (data : List UInt8)
    (userBaseAtaOverride : Option Nat) : Exec Instruction := do
  let fixed ← buildMeta accounts pumpBase slots
  let fixed ← overrideUserBaseAta accounts fixed userBaseAtaOverride
  let remaining ← trailingMetas accounts (pumpBase + fixedLen) pumpRemainingCount
    AccountInfo.isWritable
  let program ← account accounts (pumpBase + programRel)
  pure { programId := program.key, accounts := fixed ++ remaining, data }

/-- `build_buy`. -/
def buildBuy (accounts : List AccountInfo) (pumpBase pumpRemainingCount : Nat)
    (amountIn minAmountOut : UInt64) (trackVolume : Bool)
    (userBaseAtaOverride : Option Nat) : Exec Instruction :=
  buildPumpSwap accounts pumpBase pumpRemainingCount buySlots pumpBuyFixedLen
    pumpBuyProgram (buyData amountIn minAmountOut trackVolume) userBaseAtaOverride

/-- `build_sell`. -/
def buildSell (accounts : List AccountInfo) (pumpBase pumpRemainingCount : Nat)
    (amountIn minAmountOut : UInt64) (userBaseAtaOverride : Option Nat) :
    Exec Instruction :=
  buildPumpSwap accounts pumpBase pumpRemainingCount sellSlots pumpSellFixedLen
    pumpSellProgram (sellData amountIn minAmountOut) userBaseAtaOverride

variable {pumpBase remaining : Nat} {amount minimum : UInt64} {trackVolume : Bool}
  {override : Option Nat} {instruction : Instruction}

/-- The data of a PumpSwap instruction is the one its builder was given. -/
theorem buildPumpSwap_data {slots : List (Nat × Bool)} {fixedLen programRel : Nat}
    {data : List UInt8}
    (built : buildPumpSwap accounts pumpBase remaining slots fixedLen programRel data
      override = .ok instruction) : instruction.data = data := by
  simp only [buildPumpSwap, bind_eq_ok, pure_eq_ok] at built
  rcases built with ⟨_, _, _, _, _, _, _, _, rfl⟩
  rfl

/-- The references do not depend on the data. -/
theorem buildPumpSwap_rebuild {slots : List (Nat × Bool)} {fixedLen programRel : Nat}
    {data : List UInt8}
    (built : buildPumpSwap accounts pumpBase remaining slots fixedLen programRel data
      override = .ok instruction) (other : List UInt8) :
    buildPumpSwap accounts pumpBase remaining slots fixedLen programRel other override =
      .ok { instruction with data := other } := by
  simp only [buildPumpSwap, bind_eq_ok, pure_eq_ok] at built ⊢
  obtain ⟨slotted, slotsBuilt, fixed, fixedBuilt, rest, restBuilt, program, programAt,
    rfl⟩ := built
  exact ⟨slotted, slotsBuilt, fixed, fixedBuilt, rest, restBuilt, program, programAt, rfl⟩

/-- A PumpSwap instruction with known fixed references and a known block behind them: the
block follows with its own flags. -/
theorem buildPumpSwap_eq {slots : List (Nat × Bool)} {fixedLen programRel : Nat}
    {fixed : List AccountMeta} {program : AccountInfo} {block : List AccountInfo}
    (data : List UInt8)
    (fixedBuilt : buildMeta accounts pumpBase slots = .ok fixed)
    (programAt : accounts[pumpBase + programRel]? = some program)
    (placed : Segment.At accounts (pumpBase + fixedLen) block) :
    buildPumpSwap accounts pumpBase block.length slots fixedLen programRel data none =
      .ok { programId := program.key
            accounts := fixed ++ block.map fun info => asMeta info info.isWritable
            data } := by
  have read : account accounts (pumpBase + programRel) = .ok program :=
    account_eq_ok.mpr programAt
  rw [buildPumpSwap, fixedBuilt, trailingMetas_at placed, read]
  rfl

/-- Without an override, a fixed reference comes from its own offset. -/
theorem buildPumpSwap_getElem? {slots : List (Nat × Bool)} {fixedLen programRel : Nat}
    {data : List UInt8} {position rel : Nat} {writable : Bool}
    (built : buildPumpSwap accounts pumpBase remaining slots fixedLen programRel data none =
      .ok instruction) (entry : slots[position]? = some (rel, writable)) :
    ∃ info, accounts[pumpBase + rel]? = some info ∧
      instruction.accounts[position]? = some (asMeta info writable) := by
  simp only [buildPumpSwap, overrideUserBaseAta, bind_eq_ok, pure_eq_ok] at built
  rcases built with ⟨fixed, slotsBuilt, _, rfl, _, _, _, _, rfl⟩
  obtain ⟨info, infoAt, found⟩ := metas_getElem? slotsBuilt position
    (pumpBase + rel, writable) (by simp [entry])
  refine ⟨info, infoAt, ?_⟩
  rw [List.getElem?_append_left (List.getElem?_eq_some_iff.mp found).1, found]

theorem buildBuy_asks
    (built : buildBuy accounts pumpBase remaining amount minimum trackVolume override =
      .ok instruction) : Asks instruction pumpBuyDisc amount minimum :=
  asks_of_data pumpBuyDisc [if trackVolume then 1 else 0] rfl (buildPumpSwap_data built)

theorem buildSell_asks
    (built : buildSell accounts pumpBase remaining amount minimum override =
      .ok instruction) : Asks instruction pumpSellDisc amount minimum := by
  refine asks_of_data pumpSellDisc [] rfl ?_
  rw [buildPumpSwap_data built, sellData, List.append_nil]

end PumpSwap

/-! ## Raydium CPMM `swap` -/

namespace Cpmm

def swapData (amountIn minAmountOut : UInt64) : List UInt8 :=
  cpmmSwapDisc ++ (bytes amountIn ++ bytes minAmountOut)

def swapSlots (cpmmBase payerIdx inputMintIdx outputMintIdx inputAtaIdx outputAtaIdx
    inputTokenProgIdx outputTokenProgIdx memoProgramIdx : Nat) : List (Nat × Bool) :=
  [(payerIdx, true),
   (cpmmBase + 1, false),
   (cpmmBase + 2, false),
   (cpmmBase + 3, true),
   (inputAtaIdx, true),
   (outputAtaIdx, true),
   (cpmmBase + 6, true),
   (cpmmBase + 7, true),
   (inputMintIdx, false),
   (outputMintIdx, false),
   (inputTokenProgIdx, false),
   (outputTokenProgIdx, false),
   (memoProgramIdx, false)]

/-- `build_swap`. -/
def buildSwap (accounts : List AccountInfo) (cpmmBase : Nat)
    (amountIn minAmountOut : UInt64) (payerIdx inputMintIdx outputMintIdx : Nat)
    (inputAtaIdx outputAtaIdx : Nat)
    (inputTokenProgIdx outputTokenProgIdx memoProgramIdx : Nat) : Exec Instruction := do
  let references ← metas accounts (swapSlots cpmmBase payerIdx inputMintIdx outputMintIdx
    inputAtaIdx outputAtaIdx inputTokenProgIdx outputTokenProgIdx memoProgramIdx)
  let program ← account accounts cpmmBase
  pure { programId := program.key, accounts := references
         data := swapData amountIn minAmountOut }

theorem buildSwap_asks {cpmmBase payer inMint outMint inAta outAta inProg outProg memo : Nat}
    {amount minimum : UInt64} {instruction : Instruction}
    (built : buildSwap accounts cpmmBase amount minimum payer inMint outMint inAta outAta
      inProg outProg memo = .ok instruction) :
    Asks instruction cpmmSwapDisc amount minimum := by
  simp only [buildSwap, bind_eq_ok, pure_eq_ok] at built
  rcases built with ⟨_, _, _, _, rfl⟩
  exact asks_of_data cpmmSwapDisc [] rfl (by simp [swapData])

/-- A CPMM swap over accounts that are all present. -/
theorem buildSwap_eq {cpmmBase payer inMint outMint inAta outAta inProg outProg memo : Nat}
    {amount minimum : UInt64}
    (inside : ∀ slot ∈ swapSlots cpmmBase payer inMint outMint inAta outAta inProg outProg memo,
      slot.1 < accounts.length) (present : cpmmBase < accounts.length) :
    buildSwap accounts cpmmBase amount minimum payer inMint outMint inAta outAta inProg
        outProg memo =
      .ok { programId := (accounts.getD cpmmBase default).key
            accounts :=
              (swapSlots cpmmBase payer inMint outMint inAta outAta inProg outProg memo).map
                fun slot => asMeta (accounts.getD slot.1 default) slot.2
            data := swapData amount minimum } := by
  rw [buildSwap, metas_eq inside, account_of_lt present]
  rfl

theorem buildSwap_rebuild
    {cpmmBase payer inMint outMint inAta outAta inProg outProg memo : Nat}
    {amount minimum : UInt64} {instruction : Instruction}
    (built : buildSwap accounts cpmmBase amount minimum payer inMint outMint inAta outAta
      inProg outProg memo = .ok instruction) (other : UInt64) :
    buildSwap accounts cpmmBase other minimum payer inMint outMint inAta outAta inProg
      outProg memo = .ok { instruction with data := swapData other minimum } := by
  simp only [buildSwap, bind_eq_ok, pure_eq_ok] at built ⊢
  rcases built with ⟨references, referencesBuilt, program, programAt, rfl⟩
  exact ⟨references, referencesBuilt, program, programAt, rfl⟩

/-- A reference comes from the index of its slot. -/
theorem buildSwap_getElem?
    {cpmmBase payer inMint outMint inAta outAta inProg outProg memo : Nat}
    {amount minimum : UInt64} {instruction : Instruction} {position idx : Nat}
    {writable : Bool}
    (built : buildSwap accounts cpmmBase amount minimum payer inMint outMint inAta outAta
      inProg outProg memo = .ok instruction)
    (entry : (swapSlots cpmmBase payer inMint outMint inAta outAta inProg outProg
      memo)[position]? = some (idx, writable)) :
    ∃ info, accounts[idx]? = some info ∧
      instruction.accounts[position]? = some (asMeta info writable) := by
  simp only [buildSwap, bind_eq_ok, pure_eq_ok] at built
  rcases built with ⟨references, referencesBuilt, _, _, rfl⟩
  exact metas_getElem? referencesBuilt position (idx, writable) entry

theorem buildSwap_output
    {cpmmBase payer inMint outMint inAta outAta inProg outProg memo : Nat}
    {amount minimum : UInt64} {instruction : Instruction}
    (built : buildSwap accounts cpmmBase amount minimum payer inMint outMint inAta outAta
      inProg outProg memo = .ok instruction) :
    ∃ info, accounts[outAta]? = some info ∧
      instruction.accounts[5]? = some (asMeta info true) :=
  buildSwap_getElem? built rfl

end Cpmm

/-! ## Orca Whirlpool `swap` -/

namespace Whirlpool

/-- A Whirlpool reference: its signer flag is written by the builder. -/
def flagged (accounts : List AccountInfo) (idx : Nat) (isSigner writable : Bool) :
    Exec AccountMeta := do
  let a ← account accounts idx
  pure { pubkey := a.key, isSigner, isWritable := writable }

def swapData (amountIn minAmountOut : UInt64) (aToB : Bool) : List UInt8 :=
  let priceLimit := if aToB then 2 ^ 128 - 1 else 0
  whirlpoolSwapDisc ++ (bytes amountIn ++ (bytes minAmountOut ++
    (encode 16 priceLimit ++ [1, if aToB then 1 else 0])))

/-- `build_swap`.  The authority at offset one is flagged as a signer. -/
def buildSwap (accounts : List AccountInfo) (whirlpoolBase tickArrayCount : Nat)
    (amountIn minAmountOut : UInt64) (aToB : Bool) (tokenProgAIdx _tokenProgBIdx : Nat)
    (inputAtaIdx outputAtaIdx : Nat) : Exec Instruction := do
  let tokenProgram ← flagged accounts tokenProgAIdx false false
  let tokenAuthority ← flagged accounts (whirlpoolBase + 1) true false
  let whirlpool ← flagged accounts (whirlpoolBase + 2) false true
  let tokenOwnerA ← flagged accounts inputAtaIdx false true
  let vaultA ← flagged accounts (whirlpoolBase + 4) false true
  let tokenOwnerB ← flagged accounts outputAtaIdx false true
  let vaultB ← flagged accounts (whirlpoolBase + 6) false true
  let tickArrays ← (List.range (min tickArrayCount 3)).mapM fun i =>
    flagged accounts (whirlpoolBase + 7 + i) false true
  let oracle ← flagged accounts (whirlpoolBase + 10) false false
  let program ← account accounts whirlpoolBase
  pure { programId := program.key
         accounts := [tokenProgram, tokenAuthority, whirlpool, tokenOwnerA, vaultA,
           tokenOwnerB, vaultB] ++ tickArrays ++ [oracle]
         data := swapData amountIn minAmountOut aToB }

theorem buildSwap_data {whirlpoolBase ticks progA inAta outAta : Nat} (progB : Nat)
    {amount minimum : UInt64} {aToB : Bool} {instruction : Instruction}
    (built : buildSwap accounts whirlpoolBase ticks amount minimum aToB progA progB inAta
      outAta = .ok instruction) : instruction.data = swapData amount minimum aToB := by
  simp only [buildSwap, bind_eq_ok, pure_eq_ok] at built
  rcases built with ⟨_, _, _, _, _, _, _, _, _, _, _, _, _, _, _, _, _, _, _, _, rfl⟩
  rfl

theorem buildSwap_asks {whirlpoolBase ticks progA inAta outAta : Nat} (progB : Nat)
    {amount minimum : UInt64} {aToB : Bool} {instruction : Instruction}
    (built : buildSwap accounts whirlpoolBase ticks amount minimum aToB progA progB inAta
      outAta = .ok instruction) : Asks instruction whirlpoolSwapDisc amount minimum :=
  asks_of_data whirlpoolSwapDisc _ rfl (buildSwap_data progB built)

theorem buildSwap_rebuild {whirlpoolBase ticks progA inAta outAta : Nat} (progB : Nat)
    {amount minimum : UInt64} {aToB : Bool} {instruction : Instruction}
    (built : buildSwap accounts whirlpoolBase ticks amount minimum aToB progA progB inAta
      outAta = .ok instruction) (other : UInt64) :
    buildSwap accounts whirlpoolBase ticks other minimum aToB progA progB inAta outAta =
      .ok { instruction with data := swapData other minimum aToB } := by
  simp only [buildSwap, bind_eq_ok, pure_eq_ok] at built ⊢
  obtain ⟨a, builtA, b, builtB, c, builtC, d, builtD, e, builtE, f, builtF, g, builtG, ticks,
    builtTicks, oracle, builtOracle, program, programAt, rfl⟩ := built
  exact ⟨a, builtA, b, builtB, c, builtC, d, builtD, e, builtE, f, builtF, g, builtG, ticks,
    builtTicks, oracle, builtOracle, program, programAt, rfl⟩

theorem flagged_eq_ok {idx : Nat} {isSigner writable : Bool} {reference : AccountMeta} :
    flagged accounts idx isSigner writable = .ok reference ↔
      ∃ info, accounts[idx]? = some info ∧ ⟨info.key, isSigner, writable⟩ = reference := by
  simp [flagged]

/-- The authority is the second reference, the two token accounts are the fourth and the
sixth. -/
theorem buildSwap_named {whirlpoolBase ticks progA inAta outAta : Nat} (progB : Nat)
    {amount minimum : UInt64} {aToB : Bool} {instruction : Instruction}
    (built : buildSwap accounts whirlpoolBase ticks amount minimum aToB progA progB inAta
      outAta = .ok instruction) :
    (∃ info, accounts[whirlpoolBase + 1]? = some info ∧
      instruction.accounts[1]? = some ⟨info.key, true, false⟩) ∧
    (∃ info, accounts[inAta]? = some info ∧
      instruction.accounts[3]? = some ⟨info.key, false, true⟩) ∧
    ∃ info, accounts[outAta]? = some info ∧
      instruction.accounts[5]? = some ⟨info.key, false, true⟩ := by
  simp only [buildSwap, bind_eq_ok, pure_eq_ok, flagged_eq_ok] at built
  obtain ⟨_, _, _, ⟨authority, authorityAt, rfl⟩, _, _, _, ⟨input, inputAt, rfl⟩, _, _, _,
    ⟨output, outputAt, rfl⟩, _, _, _, _, _, _, _, _, rfl⟩ := built
  exact ⟨⟨authority, authorityAt, rfl⟩, ⟨input, inputAt, rfl⟩, output, outputAt, rfl⟩

theorem buildSwap_output {whirlpoolBase ticks progA inAta outAta : Nat} (progB : Nat)
    {amount minimum : UInt64} {aToB : Bool} {instruction : Instruction}
    (built : buildSwap accounts whirlpoolBase ticks amount minimum aToB progA progB inAta
      outAta = .ok instruction) :
    ∃ info, accounts[outAta]? = some info ∧
      instruction.accounts[5]? = some ⟨info.key, false, true⟩ :=
  (buildSwap_named progB built).2.2

end Whirlpool

end AtomicArbitrage.Program.Cpi

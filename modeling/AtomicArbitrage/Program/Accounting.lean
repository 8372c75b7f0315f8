import AtomicArbitrage.Library.Word64
import AtomicArbitrage.Program.Constants

/-!
# Balances

The two balance readers of the program, and what a successful read says about the
ledger.  All statements are about natural numbers, so they exclude wrap-around.
-/

namespace AtomicArbitrage.Program

open Outcome Word64

/-- `read_token_amount`: the amount of an SPL token account, at bytes 64 to 72. -/
def readTokenAmount (ledger : Ledger) (account : AccountInfo) : Exec UInt64 := do
  let data := (ledger account.key).data
  require (¬data.length < 72) (.error .invalidAccountData)
  pure (readAt data 64)

/-- `aggregate_sol_balance`: native lamports of the wallet plus its wrapped SOL. -/
def aggregateSolBalance (ledger : Ledger) (userWallet userWsolAta : AccountInfo) :
    Exec UInt64 := do
  let native := (ledger userWallet.key).lamports
  let wsol ← readTokenAmount ledger userWsolAta
  orFail (checkedAdd native wsol) (.error .arithmeticOverflow)

/-- The amount field of the token account at a key. -/
def tokenAmount (ledger : Ledger) (key : Pubkey) : UInt64 := readAt (ledger key).data 64

/-- The SOL a user holds, native and wrapped, as a number. -/
def solBalance (ledger : Ledger) (userWallet userWsolAta : Pubkey) : Nat :=
  (ledger userWallet).lamports.toNat + (tokenAmount ledger userWsolAta).toNat

theorem readTokenAmount_eq_ok {ledger : Ledger} {info : AccountInfo} {amount : UInt64} :
    readTokenAmount ledger info = .ok amount ↔
      72 ≤ (ledger info.key).data.length ∧ tokenAmount ledger info.key = amount := by
  simp [readTokenAmount, tokenAmount]

theorem aggregateSolBalance_eq_ok {ledger : Ledger} {wallet wsolAta : AccountInfo}
    {total : UInt64} :
    aggregateSolBalance ledger wallet wsolAta = .ok total ↔
      72 ≤ (ledger wsolAta.key).data.length ∧
        solBalance ledger wallet.key wsolAta.key = total.toNat := by
  simp [aggregateSolBalance, readTokenAmount_eq_ok, checkedAdd_eq_some, solBalance]

/-- The ledger in which one token account holds another amount. -/
def withTokenAmount (ledger : Ledger) (key : Pubkey) (amount : UInt64) : Ledger :=
  fun other =>
    if other = key then
      { lamports := (ledger key).lamports
        data := (ledger key).data.take 64 ++ (bytes amount ++ (ledger key).data.drop 72) }
    else ledger other

section

variable {ledger : Ledger} {key : Pubkey} {amount : UInt64}

theorem withTokenAmount_self (readable : 72 ≤ (ledger key).data.length) :
    tokenAmount (withTokenAmount ledger key amount) key = amount := by
  rw [tokenAmount, withTokenAmount, if_pos rfl]
  exact readAt_field (by rw [List.length_take]; omega)

theorem withTokenAmount_of_ne {other : Pubkey} (distinct : other ≠ key) :
    withTokenAmount ledger key amount other = ledger other := by
  rw [withTokenAmount, if_neg distinct]

theorem withTokenAmount_readable (readable : 72 ≤ (ledger key).data.length) :
    72 ≤ (withTokenAmount ledger key amount key).data.length := by
  rw [withTokenAmount, if_pos rfl]
  simp only [List.length_append, List.length_take, List.length_drop, length_bytes]
  omega

end

end AtomicArbitrage.Program

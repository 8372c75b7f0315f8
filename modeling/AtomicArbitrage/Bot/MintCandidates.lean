import AtomicArbitrage.Bot.CacheEntry
import AtomicArbitrage.Client.Constants
import AtomicArbitrage.Library.Delimited
import AtomicArbitrage.Solana.Base58

/-!
# Mints in logs

The listener reads the logs of a transaction as words between characters that are neither
letters nor figures.  A word that looks like an address, and is none of a few known ones, is
a candidate for the mint that was traded.
-/

namespace AtomicArbitrage.Bot

open Pubkey

/-- `char::is_alphanumeric`: the figures and letters of ASCII, and those of other scripts. -/
structure Alphanumeric where
  test : Char → Bool
  ascii : ∀ character, character.toNat < 128 → test character = character.isAlphanum

/-- The words of `log.split(|c| !c.is_alphanumeric())`. -/
def Alphanumeric.words (letters : Alphanumeric) (log : String) : List (List Char) :=
  log.toList.splitOnP fun character => !letters.test character

/-- `str::len`, which counts bytes. -/
def byteLen (token : List Char) : ℕ := (token.map Char.utf8Size).sum

/-- `is_base58`.  No byte of a character beyond ASCII is in the ranges. -/
def isBase58 (token : List Char) : Bool :=
  token.all fun character =>
    let code := character.toNat
    (49 ≤ code ∧ code ≤ 57) ∨ (65 ≤ code ∧ code ≤ 72) ∨ (74 ≤ code ∧ code ≤ 78) ∨
      (80 ≤ code ∧ code ≤ 90) ∨ (97 ≤ code ∧ code ≤ 107) ∨ (109 ≤ code ∧ code ≤ 122)

/-- `KNOWN_FILTER`. -/
def knownFilter : List String :=
  ["pAMMBay6oceH9fJKBRHGP5D4bD4sWpmSwMn52FMfXEA",
   "LBUZKhRxPF3XUpBCjp4YzTKgLccjZhTSDM9YuVaPwxo",
   "So11111111111111111111111111111111111111112",
   "EPjFWdd5AufqSSqeM2qN1xzybapC8G4wEGGkZwyTDt1v",
   "Es9vMFrzaCERmJfrF4H2FYD4KCoNkY11McCe8BenwNYB",
   "CebN5WGQ4jvEPvsVU4EoHEpgT1mKQ7AFUbxmAhvFUWrQ",
   "11111111111111111111111111111111",
   "TokenkegQfeZyiNwAJbNbGKPFXCWuBvf9Ss623VQ5DA",
   "ATokenGPvbdGVxr1b2hvZbsiqW5xWH25efTNsLJA8knL",
   "ComputeBudget111111111111111111111111111111",
   "whirLbMiicVdio4qvUfM5KAg6Ct8VwpYzGff3uctyCc"]

/-- The test of a word. -/
def isCandidate (token : List Char) : Bool :=
  byteLen token ≥ 32 ∧ byteLen token ≤ 44 ∧ isBase58 token = true ∧
    String.ofList token ∉ knownFilter

/-- `extract_mint_candidates`. -/
def extractMintCandidates (letters : Alphanumeric) (logs : List String) : Finset String :=
  logs.foldl (fun candidates log =>
    (letters.words log).foldl (fun candidates token =>
      if isCandidate token then insert (String.ofList token) candidates else candidates)
      candidates) ∅

/-! ## Words -/

/-- What a fold collects that adds the images of some elements to a set. -/
theorem mem_foldl_insert {α β : Type*} [DecidableEq β] (keep : α → Bool) (image : α → β)
    (elements : List α) (set : Finset β) (found : β) :
    found ∈ elements.foldl
        (fun set element => if keep element then insert (image element) set else set) set ↔
      found ∈ set ∨ ∃ element ∈ elements, keep element = true ∧ image element = found := by
  induction elements generalizing set with
  | nil => simp
  | cons element elements ih =>
      rw [List.foldl_cons, ih]
      cases keeps : keep element with
      | true =>
          simp only [if_true, Finset.mem_insert, List.mem_cons, exists_eq_or_imp, keeps,
            true_and, eq_comm (a := found)]
          tauto
      | false => simp [keeps]

theorem mem_extractMintCandidates {letters : Alphanumeric} {logs : List String}
    {mint : String} :
    mint ∈ extractMintCandidates letters logs ↔
      isCandidate mint.toList = true ∧ ∃ log ∈ logs, mint.toList ∈ letters.words log := by
  have all (set : Finset String) :
      mint ∈ logs.foldl (fun candidates log =>
        (letters.words log).foldl (fun candidates token =>
          if isCandidate token then insert (String.ofList token) candidates else candidates)
          candidates) set ↔
      mint ∈ set ∨ isCandidate mint.toList = true ∧
        ∃ log ∈ logs, mint.toList ∈ letters.words log := by
    induction logs generalizing set with
    | nil => simp
    | cons log logs ih =>
        rw [List.foldl_cons, ih, mem_foldl_insert]
        have same : (∃ token ∈ letters.words log, isCandidate token = true ∧
            String.ofList token = mint) ↔
              isCandidate mint.toList = true ∧ mint.toList ∈ letters.words log := by
          constructor
          · rintro ⟨token, inside, candidate, rfl⟩
            rw [String.toList_ofList]
            exact ⟨candidate, inside⟩
          · rintro ⟨candidate, inside⟩
            exact ⟨mint.toList, inside, candidate, String.ofList_toList⟩
        rw [same]
        simp only [List.mem_cons, exists_eq_or_imp]
        tauto
  rw [extractMintCandidates, all]
  simp

theorem isBase58_iff {token : List Char} :
    isBase58 token = true ↔ ∀ character ∈ token, (digit? character).isSome := by
  simp only [isBase58, List.all_eq_true, decide_eq_true_eq, digit?]
  apply forall₂_congr
  intro character _
  split_ifs <;> simp_all

/-- A character of base 58 is a letter or a figure, and takes one byte. -/
theorem plain_of_digit? {character : Char} (digit : (digit? character).isSome)
    (letters : Alphanumeric) :
    letters.test character = true ∧ character.utf8Size = 1 := by
  rcases Option.isSome_iff_exists.mp digit with ⟨number, found⟩
  rcases digit?_eq_some found with ⟨small, rfl⟩
  have all : ∀ number < 58, (digitChar number).toNat < 128 ∧
      (digitChar number).isAlphanum = true ∧ (digitChar number).utf8Size = 1 := by decide +kernel
  rcases all number small with ⟨ascii, alphanumeric, size⟩
  exact ⟨(letters.ascii _ ascii).trans alphanumeric, size⟩

/-- A word of base 58 is as long as it has characters. -/
theorem byteLen_of_isBase58 {token : List Char} (base58 : isBase58 token = true)
    (letters : Alphanumeric) : byteLen token = token.length := by
  rw [isBase58_iff] at base58
  induction token with
  | nil => rfl
  | cons character token ih =>
      rw [List.forall_mem_cons] at base58
      have tail := ih base58.2
      rw [byteLen] at tail ⊢
      rw [List.map_cons, List.sum_cons, tail, (plain_of_digit? base58.1 letters).2,
        List.length_cons, Nat.add_comm]

/-! ## Candidates -/

theorem isBase58_toBase58 (key : Pubkey) : isBase58 key.toBase58.toList = true := by
  rw [isBase58_iff, toBase58, String.toList_ofList]
  intro character inside
  rcases List.mem_map.mp inside with ⟨digit, member, rfl⟩
  rw [digit?_digitChar (key.digits_small digit member)]
  rfl

/-- The text of an address is a candidate unless it is a known one. -/
theorem isCandidate_toBase58 (letters : Alphanumeric) (key : Pubkey) :
    isCandidate key.toBase58.toList = true ↔ key.toBase58 ∉ knownFilter := by
  have base58 := isBase58_toBase58 key
  have length : key.toBase58.toList.length = key.base58Digits.length := by
    rw [toBase58, String.toList_ofList, List.length_map]
  simp only [isCandidate, byteLen_of_isBase58 base58 letters, length, String.ofList_toList,
    decide_eq_true_eq, base58, key.le_length_base58Digits, key.length_base58Digits_le,
    true_and]

/-- A text that can be the mint of a token that the bot does not know already. -/
structure Plausible (mint : String) : Prop where
  unknown : mint ∉ knownFilter
  length : mint.toList.length ∈ Set.Icc 32 44
  base58 : ∀ character ∈ mint.toList, (digit? character).isSome

theorem plausible_of_candidate {letters : Alphanumeric} {logs : List String} {mint : String}
    (found : mint ∈ extractMintCandidates letters logs) : Plausible mint := by
  have candidate := (mem_extractMintCandidates.mp found).1
  simp only [isCandidate, decide_eq_true_eq, String.ofList_toList] at candidate
  rcases candidate with ⟨long, short, base58, unknown⟩
  rw [byteLen_of_isBase58 base58 letters] at long short
  exact ⟨unknown, ⟨long, short⟩, isBase58_iff.mp base58⟩

/-- An address is a candidate where its text stands between separators. -/
theorem toBase58_mem_candidates {letters : Alphanumeric} {logs : List String} {key : Pubkey} :
    key.toBase58 ∈ extractMintCandidates letters logs ↔
      key.toBase58 ∉ knownFilter ∧ ∃ log ∈ logs, ∃ front back,
        Delimited.Stands (fun character => !letters.test character) front key.toBase58.toList
          back log.toList := by
  rw [mem_extractMintCandidates, isCandidate_toBase58 letters]
  simp only [Alphanumeric.words, Delimited.mem_splitOnP_iff]

/-- The mint of a token, if the bot does not know its address already, is a candidate exactly
when some log has its text between two characters that are neither letters nor figures.  Every
candidate is a word of base 58 of the length of an address. -/
theorem extractMintCandidates_exact (letters : Alphanumeric) (logs : List String) :
    (∀ key : Pubkey, key.toBase58 ∈ extractMintCandidates letters logs ↔
      key.toBase58 ∉ knownFilter ∧ ∃ log ∈ logs, ∃ front back,
        Delimited.Stands (fun character => !letters.test character) front key.toBase58.toList
          back log.toList) ∧
      ∀ mint ∈ extractMintCandidates letters logs, Plausible mint :=
  ⟨fun _ => toBase58_mem_candidates, fun _ => plausible_of_candidate⟩

end AtomicArbitrage.Bot

import AtomicArbitrage.Bot.Extract
import AtomicArbitrage.Bot.MintCandidates
import AtomicArbitrage.Library.Runs
import AtomicArbitrage.Library.Seen

/-!
# The backscan

A background task asks for the latest transactions of two programs, reads the mints out of
each one that it has not read before, and feeds them to the discovery task.  It has the rules
of the listener for words in logs, but a list of known addresses of its own, and it also feeds
the account keys of the transaction.
-/

namespace AtomicArbitrage.Bot

open Client

/-! ## Responses -/

/-- The body of the loop over the entries of `getSignaturesForAddress`. -/
def signatureOf (entry : Json) : Option String := do
  let sig ← (← entry.get "signature").asStr
  match entry.get "err" with
  | none => some sig
  | some .null => some sig
  | some _ => none

/-- `fetch_signatures`, of the response. -/
def fetchSignatures (resp : Json) : List String :=
  match resp.get "result" with
  | none => []
  | some result => (result.asArray.map fun entries => entries.filterMap signatureOf).getD []

/-- `known_filter`. -/
def backscanFilter : List String :=
  [pumpfunAmmProgram,
   "LBUZKhRxPF3XUpBCjp4YzTKgLccjZhTSDM9YuVaPwxo",
   "So11111111111111111111111111111111111111112",
   "EPjFWdd5AufqSSqeM2qN1xzybapC8G4wEGGkZwyTDt1v",
   "Es9vMFrzaCERmJfrF4H2FYD4KCoNkY11McCe8BenwNYB",
   "11111111111111111111111111111111",
   "TokenkegQfeZyiNwAJbNbGKPFXCWuBvf9Ss623VQ5DA",
   "ATokenGPvbdGVxr1b2hvZbsiqW5xWH25efTNsLJA8knL",
   "ComputeBudget111111111111111111111111111111",
   "CPMMoo8L3F4NbTegBCKVNunggL7H1ZpdTHKxQB5qKP1C",
   "whirLbMiicVdio4qvUfM5KAg6Ct8VwpYzGff3uctyCc"]

/-- The texts of `meta.logMessages`. -/
def logMessagesOf (result : Json) : Option (List String) := do
  let metadata ← result.get "meta"
  let logs ← metadata.get "logMessages"
  let lines ← logs.asArray
  pure (lines.filterMap Json.asStr)

/-- The words of the logs that have the form of an address. -/
def logCandidates (letters : Alphanumeric) (logs : List String) : List String :=
  logs.flatMap fun log =>
    ((letters.words log).filter fun token =>
      byteLen token ≥ 32 ∧ byteLen token ≤ 44 ∧ isBase58 token = true).map String.ofList

/-- `fetch_tx_mints`, of the response. -/
def fetchTxMints (letters : Alphanumeric) (resp : Json) : List String :=
  match resp.get "result" with
  | none => []
  | some result =>
      let accountKeys := (accountKeysOf result).getD []
      let fromLogs := logCandidates letters ((logMessagesOf result).getD [])
      let allCandidates := (accountKeys ++ fromLogs).filter fun text =>
        text ∉ backscanFilter ∧ isBase58 text.toList = true
      (Seen.empty.filter allCandidates).1

/-- The account keys of a response. -/
def keysOf (resp : Json) : List String := ((resp.get "result").bind accountKeysOf).getD []

/-- The logs of a response. -/
def logsOf (resp : Json) : List String := ((resp.get "result").bind logMessagesOf).getD []

theorem mem_logCandidates {letters : Alphanumeric} {logs : List String} {mint : String} :
    mint ∈ logCandidates letters logs ↔
      (byteLen mint.toList ∈ Set.Icc 32 44 ∧ isBase58 mint.toList = true) ∧
        ∃ log ∈ logs, mint.toList ∈ letters.words log := by
  simp only [logCandidates, List.mem_flatMap, List.mem_map, List.mem_filter,
    decide_eq_true_eq, Set.mem_Icc, ge_iff_le]
  constructor
  · rintro ⟨log, inside, token, ⟨word, long, short, base58⟩, rfl⟩
    rw [String.toList_ofList]
    exact ⟨⟨⟨long, short⟩, base58⟩, log, inside, word⟩
  · rintro ⟨⟨⟨long, short⟩, base58⟩, log, inside, word⟩
    exact ⟨log, inside, mint.toList, ⟨word, long, short, base58⟩, String.ofList_toList⟩

theorem fetchTxMints_eq (letters : Alphanumeric) (resp : Json) :
    fetchTxMints letters resp =
      (Seen.empty.filter ((keysOf resp ++ logCandidates letters (logsOf resp)).filter fun text =>
        text ∉ backscanFilter ∧ isBase58 text.toList = true)).1 := by
  rw [fetchTxMints, keysOf, logsOf]
  cases resp.get "result" with
  | none => rfl
  | some result => rfl

theorem mem_fetchTxMints {letters : Alphanumeric} {resp : Json} {mint : String} :
    mint ∈ fetchTxMints letters resp ↔
      (mint ∉ backscanFilter ∧ isBase58 mint.toList = true) ∧
        (mint ∈ keysOf resp ∨ mint ∈ logCandidates letters (logsOf resp)) := by
  rw [fetchTxMints_eq, Seen.mem_filter]
  simp only [Seen.elements_empty, List.not_mem_nil, not_false_eq_true, and_true,
    List.mem_filter, List.mem_append, decide_eq_true_eq]
  exact and_comm

/-- The lists of known addresses differ in two of them: the program of CPMM pools, which only
the backscan knows, and an address that only the listener knows. -/
theorem known_iff {text : String} :
    text ∈ backscanFilter ↔
      text = cpmmProgram ∨
        text ∈ knownFilter ∧ text ≠ "CebN5WGQ4jvEPvsVU4EoHEpgT1mKQ7AFUbxmAhvFUWrQ" := by
  have left : ∀ text ∈ backscanFilter, text = cpmmProgram ∨
      text ∈ knownFilter ∧ text ≠ "CebN5WGQ4jvEPvsVU4EoHEpgT1mKQ7AFUbxmAhvFUWrQ" := by
    decide +kernel
  have right : ∀ text ∈ knownFilter,
      text = "CebN5WGQ4jvEPvsVU4EoHEpgT1mKQ7AFUbxmAhvFUWrQ" ∨ text ∈ backscanFilter := by
    decide +kernel
  have program : cpmmProgram ∈ backscanFilter := by decide +kernel
  constructor
  · exact left text
  · rintro (rfl | ⟨known, other⟩)
    · exact program
    · exact (right text known).resolve_left other

/-- The backscan reads no mint twice from a transaction.  Beyond the account keys it finds what
the listener finds in the same logs, but for the two addresses that one of them knows. -/
theorem backscan_agrees (letters : Alphanumeric) (resp : Json) :
    (fetchTxMints letters resp).Nodup ∧
      (∀ mint ∈ extractMintCandidates letters (logsOf resp), mint ≠ cpmmProgram →
        mint ∈ fetchTxMints letters resp) ∧
      ∀ mint ∈ fetchTxMints letters resp,
        mint ≠ "CebN5WGQ4jvEPvsVU4EoHEpgT1mKQ7AFUbxmAhvFUWrQ" → mint ∉ keysOf resp →
          mint ∈ extractMintCandidates letters (logsOf resp) := by
  refine ⟨?_, ?_, ?_⟩
  · rw [fetchTxMints_eq]
    exact Seen.nodup_filter _ _
  · intro mint found other
    rcases mem_extractMintCandidates.mp found with ⟨candidate, named⟩
    simp only [isCandidate, decide_eq_true_eq, String.ofList_toList] at candidate
    rcases candidate with ⟨long, short, base58, unknown⟩
    apply mem_fetchTxMints.mpr
    refine ⟨⟨?_, base58⟩, .inr (mem_logCandidates.mpr ⟨⟨⟨long, short⟩, base58⟩, named⟩)⟩
    intro known
    rcases known_iff.mp known with program | ⟨known, _⟩
    · exact other program
    · exact unknown known
  · intro mint fed other notKey
    rcases mem_fetchTxMints.mp fed with ⟨⟨unknown, base58⟩, source⟩
    rcases mem_logCandidates.mp (source.resolve_left notKey) with ⟨⟨size, _⟩, named⟩
    apply mem_extractMintCandidates.mpr
    refine ⟨?_, named⟩
    simp only [isCandidate, decide_eq_true_eq, String.ofList_toList]
    exact ⟨size.1, size.2, base58, fun known => unknown (known_iff.mpr (.inr ⟨known, other⟩))⟩

/-! ## The task -/

/-- What the node answers during a cycle; a request that fails has no answer. -/
structure ScanAnswers where
  signatures : String → Option Json
  transaction : String → Option Json

/-- The signatures that a program's request gives. -/
def ScanAnswers.sigs (answers : ScanAnswers) (program : String) : List String :=
  ((answers.signatures program).map fetchSignatures).getD []

/-- The programs of a cycle. -/
def backscanPrograms : List String := [pumpfunAmmProgram, dlmmProgram]

/-- The signatures that the task remembers, every transaction it has asked for, with the answer,
and the mints it has sent to the discovery task. -/
structure Backscan where
  seenSignatures : Seen String
  asked : List (String × Option Json)
  sent : List String

namespace Backscan

def start : Backscan where
  seenSignatures := .empty
  asked := []
  sent := []

variable (letters : Alphanumeric)

/-- The mints read from an answer; a request that failed gives none. -/
def mintsOf (answer : Option Json) : List String :=
  (answer.map (fetchTxMints letters)).getD []

/-- One round of the loop over the two programs. -/
def scanProgram (answers : ScanAnswers) (s : Backscan) (program : String) : Backscan :=
  let (fresh, seen) := s.seenSignatures.filter (answers.sigs program)
  { seenSignatures := seen
    asked := s.asked ++ fresh.map fun sig => (sig, answers.transaction sig)
    sent := s.sent ++ fresh.flatMap fun sig => mintsOf letters (answers.transaction sig) }

/-- A cycle of the task. -/
def cycle (s : Backscan) (answers : ScanAnswers) : Backscan :=
  let s := backscanPrograms.foldl (scanProgram letters answers) s
  { s with seenSignatures := s.seenSignatures.clearOver 10000 }

/-! ## What is asked for -/

/-- The lists of signatures that a cycle reads. -/
def pages (answers : ScanAnswers) : List (ScanAnswers × String) :=
  backscanPrograms.map (answers, ·)

/-- The task has asked for what some lists of signatures name. -/
structure HasRead (s : Backscan) (read : List (ScanAnswers × String)) : Prop where
  history : Seen.Passed 10000 (s.asked.map Prod.fst) s.seenSignatures
  sent : s.sent = s.asked.flatMap fun request => mintsOf letters request.2
  complete : ∀ page ∈ read, ∀ sig ∈ page.1.sigs page.2, sig ∈ s.asked.map Prod.fst
  sound : ∀ request ∈ s.asked, ∃ page ∈ read,
    request.1 ∈ page.1.sigs page.2 ∧ request.2 = page.1.transaction request.1

variable {letters} {s : Backscan} {read : List (ScanAnswers × String)}

theorem HasRead.start : HasRead letters start [] where
  history := .empty
  sent := rfl
  complete := List.forall_mem_nil _
  sound := List.forall_mem_nil _

/-- The requests of a round are those for the signatures that are not remembered. -/
theorem asked_scanProgram (answers : ScanAnswers) (s : Backscan) (program : String) :
    ((s.scanProgram letters answers program).asked.map Prod.fst) =
      s.asked.map Prod.fst ++ (s.seenSignatures.filter (answers.sigs program)).1 := by
  simp only [scanProgram, List.map_append, List.map_map]
  exact congrArg _ (List.map_id _)

theorem HasRead.scanProgram (has : HasRead letters s read) (answers : ScanAnswers)
    (program : String) :
    HasRead letters (s.scanProgram letters answers program) (read ++ [(answers, program)]) where
  history := by
    rw [asked_scanProgram]
    exact has.history.filter _
  sent := by
    simp only [Backscan.scanProgram, has.sent, List.flatMap_append, List.flatMap_map]
  complete := by
    intro page member sig listed
    rw [asked_scanProgram]
    rcases List.mem_append.mp member with before | now
    · exact List.mem_append_left _ (has.complete page before sig listed)
    · rw [List.mem_singleton.mp now] at listed
      by_cases known : sig ∈ s.seenSignatures.elements
      · exact List.mem_append_left _ (has.history.mem known)
      · exact List.mem_append_right _ (Seen.mem_filter.mpr ⟨listed, known⟩)
  sound := by
    intro request member
    rcases List.mem_append.mp member with before | now
    · rcases has.sound request before with ⟨page, inside, source⟩
      exact ⟨page, List.mem_append_left _ inside, source⟩
    · rcases List.mem_map.mp now with ⟨sig, fresh, rfl⟩
      exact ⟨_, List.mem_append_right _ (List.mem_singleton.mpr rfl),
        (Seen.mem_filter.mp fresh).1, rfl⟩

theorem HasRead.cycle (has : HasRead letters s read) (answers : ScanAnswers) :
    HasRead letters (s.cycle letters answers) (read ++ pages answers) := by
  have rounds := (has.scanProgram answers pumpfunAmmProgram).scanProgram answers dlmmProgram
  rw [List.append_assoc] at rounds
  exact ⟨rounds.history.clearOver, rounds.sent, rounds.complete, rounds.sound⟩

theorem HasRead.run (run : List ScanAnswers) :
    HasRead letters (Runs.final (Backscan.cycle letters) Backscan.start run)
      (run.flatMap pages) := by
  induction run using List.reverseRecOn with
  | nil => exact .start
  | append_singleton run answers ih =>
      rw [Runs.final_append, List.flatMap_append, List.flatMap_singleton]
      exact ih.cycle answers

theorem mem_pages {run : List ScanAnswers} {page : ScanAnswers × String} :
    page ∈ run.flatMap pages ↔ page.1 ∈ run ∧ page.2 ∈ backscanPrograms := by
  simp only [pages, List.mem_flatMap, List.mem_map]
  constructor
  · rintro ⟨answers, inside, program, listed, rfl⟩
    exact ⟨inside, listed⟩
  · exact fun both => ⟨page.1, both.1, page.2, both.2, rfl⟩

/-- Over any number of cycles the task asks for every transaction that a list of signatures has
named without an error, and for no other: at most once among its first ten thousand requests,
and at most once more for each ten thousand and one further requests.  It has sent the mints of
the answers, in their order, and nothing else, so what a failed request would have named is
lost until its signature is forgotten. -/
theorem asked_once (run : List ScanAnswers) :
    let s := Runs.final (cycle letters) start run
    (∀ answers ∈ run, ∀ program ∈ backscanPrograms, ∀ sig ∈ answers.sigs program,
      sig ∈ s.asked.map Prod.fst) ∧
    (∀ request ∈ s.asked, ∃ answers ∈ run, ∃ program ∈ backscanPrograms,
      request.1 ∈ answers.sigs program ∧ request.2 = answers.transaction request.1) ∧
    (∀ sig, (s.asked.map Prod.fst).count sig ≤ s.asked.length / 10001 + 1) ∧
    s.sent = s.asked.flatMap fun request => mintsOf letters request.2 := by
  intro s
  have has := @HasRead.run letters run
  refine ⟨?_, ?_, ?_, has.sent⟩
  · intro answers inside program which
    exact has.complete (answers, program) (mem_pages.mpr ⟨inside, which⟩)
  · intro request member
    rcases has.sound request member with ⟨page, inside, source⟩
    have read := mem_pages.mp inside
    exact ⟨page.1, read.1, page.2, read.2, source⟩
  · intro sig
    have count := has.history.count_le sig
    rw [List.length_map] at count
    exact count

end Backscan

end AtomicArbitrage.Bot

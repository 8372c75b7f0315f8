import AtomicArbitrage.Library.SwapRemove
import AtomicArbitrage.Solana.Pubkey
import Mathlib.Algebra.Order.Ring.Rat
import Mathlib.Data.List.Induction

/-!
# Confirmation of submitted trades

A background task asks for the statuses of the signatures it can parse and books every
status on the pending entry of the same index.  Amounts of SOL are read as exact
rationals.
-/

namespace AtomicArbitrage.Bot

open SwapRemove

/-! ## Signatures -/

/-- A transaction signature: exactly sixty-four bytes. -/
structure Signature where
  bytes : List UInt8
  size : bytes.length = 64
deriving DecidableEq

/-- `Signature::from_str`: at most eighty-eight base 58 characters that decode to exactly
sixty-four bytes. -/
def Signature.fromStr? (text : String) : Option Signature := do
  let characters := text.toList
  if characters.length > 88 then none
  let value ← Pubkey.value? characters 0
  let signature : Signature :=
    { bytes := Pubkey.bigEndian 64 value, size := Pubkey.length_bigEndian 64 value }
  let leadingOnes := (characters.takeWhile (· == '1')).length
  let leadingZeros := (signature.bytes.takeWhile (· == 0)).length
  if value < 2 ^ 512 ∧ leadingOnes = leadingZeros then some signature else none

/-! ## The task's data -/

/-- `PendingConfirmation`, without what is only logged. -/
structure PendingConfirmation where
  signature : String
  estimatedNetProfitSol : ℚ
  priorityFeeSol : ℚ
deriving DecidableEq

/-- What is read of a `TransactionStatus`: whether its `status` is `Ok`. -/
structure TransactionStatus where
  isOk : Bool
deriving DecidableEq

/-- What is read of the metadata of a confirmed transaction. -/
structure TransactionMeta where
  preBalances : List UInt64
  postBalances : List UInt64

/-- A confirmed transaction; its metadata may be missing. -/
structure ConfirmedTransaction where
  transactionMeta : Option TransactionMeta

/-- The answers of an RPC node.  `none` is an error; a transaction is asked for by
signature and attempt. -/
structure ConfirmationRpc where
  getSignatureStatuses : List Signature → Option (List (Option TransactionStatus))
  getTransaction : Signature → Nat → Option ConfirmedTransaction

/-- The calls that the task makes while it works through the statuses. -/
inductive Effect where
  | confirmationsLate
  | recordConfirmation (pnl : ℚ) (succeeded : Bool)
  | tradeUpdateConfirmed (signature : String) (pnl : ℚ) (succeeded : Bool)
  | tradesSucceeded
  | profitSol (pnl : ℚ)
deriving DecidableEq

/-- The two calls that book an outcome. -/
def Effect.books : Effect → Bool
  | .recordConfirmation _ _ => true
  | .tradeUpdateConfirmed _ _ _ => true
  | _ => false

/-- The call that moves the tracker's counters. -/
def Effect.records : Effect → Bool
  | .recordConfirmation _ _ => true
  | _ => false

/-! ## One cycle -/

/-- `extract_actual_pnl`: the change of the first balance of the first answer out of three
attempts. -/
def extractActualPnl (rpc : ConfirmationRpc) (signature : Signature) : Option ℚ := do
  let tx ← (List.range 3).findSome? (rpc.getTransaction signature)
  let txMeta ← tx.transactionMeta
  let pre ← txMeta.preBalances.head?
  let post ← txMeta.postBalances.head?
  pure (((post.toNat : ℤ) - (pre.toNat : ℤ) : ℤ) / 1000000000)

/-- What the task books when it cannot read the balances. -/
def fallbackPnl (p : PendingConfirmation) (succeeded : Bool) : ℚ :=
  if succeeded then p.estimatedNetProfitSol else -(p.priorityFeeSol + 5 / 1000000)

/-- The body of the loop over the statuses, for an entry and the signature at its index. -/
def confirmEntry (rpc : ConfirmationRpc) (latencyMs : PendingConfirmation → Nat)
    (sig : Signature) (p : PendingConfirmation) (status : TransactionStatus) : List Effect :=
  let succeeded := status.isOk
  let late := if latencyMs p > 30000 then [Effect.confirmationsLate] else []
  let pnl := (extractActualPnl rpc sig).getD (fallbackPnl p succeeded)
  late ++ [.recordConfirmation pnl succeeded, .tradeUpdateConfirmed p.signature pnl succeeded] ++
    (if succeeded then [.tradesSucceeded, .profitSol pnl] else [])

/-- The loop over the statuses: its calls, and the indices it collects.  An index out of
range is a panic, as `none`. -/
def statusLoop (rpc : ConfirmationRpc) (latencyMs : PendingConfirmation → Nat)
    (signatures : List Signature) (pending : List PendingConfirmation) :
    (i : Nat) → List (Option TransactionStatus) → Option (List Effect × List Nat)
  | _, [] => some ([], [])
  | i, none :: statuses => statusLoop rpc latencyMs signatures pending (i + 1) statuses
  | i, some status :: statuses => do
      let sig ← signatures[i]?
      let p ← pending[i]?
      let (effects, toRemove) ←
        statusLoop rpc latencyMs signatures pending (i + 1) statuses
      pure (confirmEntry rpc latencyMs sig p status ++ effects, i :: toRemove)

/-- `process_statuses`. -/
def processStatuses (rpc : ConfirmationRpc) (latencyMs : PendingConfirmation → Nat)
    (pending : List PendingConfirmation) (signatures : List Signature)
    (statuses : List (Option TransactionStatus)) :
    Option (List Effect × List PendingConfirmation) := do
  let (effects, toRemove) ← statusLoop rpc latencyMs signatures pending 0 statuses
  let remaining ← removeAll toRemove pending
  pure (effects, remaining)

/-- The signatures that a cycle asks for. -/
def parsedSignatures (pending : List PendingConfirmation) : List Signature :=
  pending.filterMap fun p => Signature.fromStr? p.signature

/-- One cycle of the task over its pending list, up to the eviction. -/
def confirmationCycle (rpc : ConfirmationRpc) (latencyMs : PendingConfirmation → Nat)
    (pending : List PendingConfirmation) : Option (List Effect × List PendingConfirmation) :=
  if pending.isEmpty then some ([], pending)
  else
    let signatures := parsedSignatures pending
    if signatures.isEmpty then some ([], pending)
    else
      match rpc.getSignatureStatuses signatures with
      | some statuses => processStatuses rpc latencyMs pending signatures statuses
      | none => some ([], pending)

/-! ## What a cycle should do -/

section

variable (statusOf : Signature → Option TransactionStatus)

/-- The signature of an entry, with its status. -/
def ownStatus (p : PendingConfirmation) : Option (Signature × TransactionStatus) := do
  let sig ← Signature.fromStr? p.signature
  let status ← statusOf sig
  pure (sig, status)

/-- The bookings that an entry is due: none while its own signature has no status. -/
def ownBookings (rpc : ConfirmationRpc) (p : PendingConfirmation) : List Effect :=
  match ownStatus statusOf p with
  | none => []
  | some (sig, status) =>
      let pnl := (extractActualPnl rpc sig).getD (fallbackPnl p status.isOk)
      [.recordConfirmation pnl status.isOk, .tradeUpdateConfirmed p.signature pnl status.isOk]

/-- A cycle books every entry whose own signature has a status, once and with its own
data, and leaves exactly the others. -/
def ConfirmsOwn (rpc : ConfirmationRpc) (latencyMs : PendingConfirmation → Nat)
    (pending : List PendingConfirmation) : Prop :=
  ∃ effects remaining,
    confirmationCycle rpc latencyMs pending = some (effects, remaining) ∧
      (effects.filter Effect.books).Perm (pending.flatMap (ownBookings statusOf rpc)) ∧
      remaining.Perm (pending.filter fun p => (ownStatus statusOf p).isNone)

/-- No entry that cannot be parsed stands before an entry with a status. -/
def Aligned (pending : List PendingConfirmation) : Prop :=
  pending.Pairwise fun earlier later =>
    (ownStatus statusOf later).isSome → (Signature.fromStr? earlier.signature).isSome

/-- Which of the statuses asked for are there. -/
def statusMarks (pending : List PendingConfirmation) : List Bool :=
  (parsedSignatures pending).map fun sig => (statusOf sig).isSome

end

/-! ## The loop -/

section

variable {rpc : ConfirmationRpc} {latencyMs : PendingConfirmation → Nat}
variable {statusOf : Signature → Option TransactionStatus}
variable {signatures : List Signature} {pending : List PendingConfirmation}

/-- While no index is out of range the loop succeeds, and it collects the indices at which
there is a status. -/
theorem statusLoop_places (statuses : List (Option TransactionStatus)) (i : Nat)
    (parsed : i + statuses.length ≤ signatures.length)
    (listed : i + statuses.length ≤ pending.length) :
    ∃ effects, statusLoop rpc latencyMs signatures pending i statuses =
      some (effects, places (statuses.map Option.isSome) i) := by
  induction statuses generalizing i with
  | nil => exact ⟨[], rfl⟩
  | cons status statuses ih =>
      rw [List.length_cons] at parsed listed
      have rest := ih (i + 1) (by omega) (by omega)
      cases rest with
      | intro effects run =>
          cases status with
          | none => exact ⟨effects, run⟩
          | some status =>
              have insideSignatures : i < signatures.length := by omega
              have insidePending : i < pending.length := by omega
              have sig : signatures[i]? = some signatures[i] :=
                List.getElem?_eq_getElem insideSignatures
              have entry : pending[i]? = some pending[i] :=
                List.getElem?_eq_getElem insidePending
              refine ⟨confirmEntry rpc latencyMs signatures[i] pending[i] status ++ effects, ?_⟩
              simp only [statusLoop, sig, entry, run, Option.bind_eq_bind,
                Option.bind_some]
              rfl

/-- The bookings among the calls for an entry and a signature. -/
theorem confirmEntry_books (sig : Signature) (p : PendingConfirmation)
    (status : TransactionStatus) :
    (confirmEntry rpc latencyMs sig p status).filter Effect.books =
      [.recordConfirmation ((extractActualPnl rpc sig).getD (fallbackPnl p status.isOk))
          status.isOk,
        .tradeUpdateConfirmed p.signature
          ((extractActualPnl rpc sig).getD (fallbackPnl p status.isOk)) status.isOk] := by
  simp only [confirmEntry, List.filter_append]
  by_cases late : latencyMs p > 30000 <;> cases status.isOk <;> simp [late, Effect.books]

theorem ownStatus_eq_none {p : PendingConfirmation}
    (unparsed : Signature.fromStr? p.signature = none) : ownStatus statusOf p = none := by
  rw [ownStatus, unparsed]
  rfl

theorem ownStatus_isSome {p : PendingConfirmation} {sig : Signature}
    (parsed : Signature.fromStr? p.signature = some sig) :
    (ownStatus statusOf p).isSome = (statusOf sig).isSome := by
  rw [ownStatus, parsed]
  cases found : statusOf sig with
  | none => simp [found]
  | some status => simp [found]

/-- Behind an entry that cannot be parsed, an aligned list has no status. -/
theorem Aligned.none_behind {p : PendingConfirmation} {rest : List PendingConfirmation}
    (aligned : Aligned statusOf (p :: rest))
    (unparsed : Signature.fromStr? p.signature = none) :
    ∀ later ∈ rest, ownStatus statusOf later = none := by
  intro later inside
  have head := (List.pairwise_cons.mp aligned).1 later inside
  rw [unparsed] at head
  cases own : ownStatus statusOf later with
  | none => rfl
  | some found =>
      rw [own] at head
      exact absurd (head rfl) Bool.false_ne_true

/-- Where no entry has a status, none of the statuses asked for is there. -/
theorem statusMarks_false {rest : List PendingConfirmation}
    (none : ∀ later ∈ rest, ownStatus statusOf later = none) :
    ∀ mark ∈ statusMarks statusOf rest, mark = false := by
  intro mark inside
  rcases List.mem_map.mp inside with ⟨sig, asked, rfl⟩
  rcases List.mem_filterMap.mp asked with ⟨later, listed, parsed⟩
  rw [← ownStatus_isSome parsed, none later listed]
  rfl

/-- The entries at the indices of the statuses are the entries with a status, when no
unparsed entry comes in between. -/
theorem marked_of_aligned (aligned : Aligned statusOf pending) :
    marked (statusMarks statusOf pending) pending =
      pending.filter fun p => (ownStatus statusOf p).isSome := by
  induction pending with
  | nil => rfl
  | cons p rest ih =>
      have tail := ih (List.Pairwise.of_cons aligned)
      cases parsed : Signature.fromStr? p.signature with
      | none =>
          have behind := aligned.none_behind parsed
          have asked : statusMarks statusOf (p :: rest) = statusMarks statusOf rest := by
            simp only [statusMarks, parsedSignatures, List.filterMap_cons, parsed]
          rw [asked, marked_of_false _ (statusMarks_false behind), List.filter_cons,
            ownStatus_eq_none parsed]
          refine (List.filter_eq_nil_iff.mpr ?_).symm
          intro later inside
          rw [behind later inside]
          exact Bool.false_ne_true
      | some sig =>
          have asked : statusMarks statusOf (p :: rest) =
              (ownStatus statusOf p).isSome :: statusMarks statusOf rest := by
            simp only [statusMarks, parsedSignatures, List.filterMap_cons, parsed,
              List.map_cons, ownStatus_isSome parsed]
          rw [asked, List.filter_cons, ← tail]
          cases (ownStatus statusOf p).isSome with
          | false => rfl
          | true => rfl

/-- Statuses that are all missing cause no call. -/
theorem statusLoop_none (statuses : List (Option TransactionStatus)) (i : Nat)
    (none : ∀ status ∈ statuses, status = none) :
    statusLoop rpc latencyMs signatures pending i statuses = some ([], []) := by
  induction statuses generalizing i with
  | nil => rfl
  | cons status statuses ih =>
      have first := none status (List.mem_cons_self ..)
      subst first
      exact ih (i + 1) fun status inside => none status (List.mem_cons_of_mem _ inside)

/-- From an index up to which entries and signatures correspond, the loop books what the
further entries are due. -/
theorem statusLoop_books (front rest : List PendingConfirmation) (asked : List Signature)
    (width : asked.length = front.length) (aligned : Aligned statusOf rest) :
    ∃ effects indices,
      statusLoop rpc latencyMs (asked ++ parsedSignatures rest) (front ++ rest) front.length
          ((parsedSignatures rest).map statusOf) = some (effects, indices) ∧
        effects.filter Effect.books = rest.flatMap (ownBookings statusOf rpc) := by
  induction rest generalizing front asked with
  | nil => exact ⟨[], [], rfl, rfl⟩
  | cons p rest ih =>
      cases parsed : Signature.fromStr? p.signature with
      | none =>
          have behind := aligned.none_behind parsed
          have same : parsedSignatures (p :: rest) = parsedSignatures rest := by
            simp only [parsedSignatures, List.filterMap_cons, parsed]
          have missing : ∀ status ∈ (parsedSignatures rest).map statusOf, status = none := by
            intro status inside
            rcases List.mem_map.mp inside with ⟨sig, listed, rfl⟩
            apply Option.not_isSome_iff_eq_none.mp
            rw [statusMarks_false behind _ (List.mem_map_of_mem listed)]
            exact Bool.false_ne_true
          refine ⟨[], [], ?_, ?_⟩
          · rw [same]
            exact statusLoop_none _ _ missing
          · have due : ∀ later ∈ p :: rest, ownBookings statusOf rpc later = [] := by
              intro later inside
              have own : ownStatus statusOf later = none := by
                rcases List.mem_cons.mp inside with rfl | further
                · exact ownStatus_eq_none parsed
                · exact behind later further
              rw [ownBookings, own]
            exact (List.flatMap_eq_nil_iff.mpr due).symm
      | some sig =>
          have same : parsedSignatures (p :: rest) = sig :: parsedSignatures rest := by
            simp only [parsedSignatures, List.filterMap_cons, parsed]
          have next := ih (front ++ [p]) (asked ++ [sig])
            (by rw [List.length_append, List.length_append, width]; rfl)
            (List.Pairwise.of_cons aligned)
          rw [List.append_assoc, List.append_assoc, List.length_append] at next
          rcases next with ⟨effects, indices, run, books⟩
          cases found : statusOf sig with
          | none =>
              refine ⟨effects, indices, ?_, ?_⟩
              · rw [same, List.map_cons, found]
                exact run
              · have own : ownStatus statusOf p = none := by
                  rw [ownStatus, parsed]
                  simp [found]
                rw [List.flatMap_cons, ownBookings, own]
                exact books
          | some status =>
              have here : (asked ++ sig :: parsedSignatures rest)[front.length]? = some sig := by
                rw [← width, List.getElem?_append_right (Nat.le_refl _), Nat.sub_self]
                rfl
              have entry : (front ++ p :: rest)[front.length]? = some p := by
                rw [List.getElem?_append_right (Nat.le_refl _), Nat.sub_self]
                rfl
              refine ⟨confirmEntry rpc latencyMs sig p status ++ effects,
                front.length :: indices, ?_, ?_⟩
              · rw [same, List.map_cons, found]
                simp only [List.singleton_append] at run
                simp only [statusLoop, here, entry, Option.bind_eq_bind, Option.bind_some]
                rw [show front.length + 1 = front.length + [p].length from rfl, run]
                rfl
              · have own : ownStatus statusOf p = some (sig, status) := by
                  rw [ownStatus, parsed]
                  simp [found]
                rw [List.filter_append, confirmEntry_books, books, List.flatMap_cons,
                  ownBookings, own]

/-- The loop records one confirmation for every index it collects. -/
theorem statusLoop_records (statuses : List (Option TransactionStatus)) (i : Nat)
    {effects : List Effect} {indices : List Nat}
    (run : statusLoop rpc latencyMs signatures pending i statuses = some (effects, indices)) :
    effects.countP Effect.records = indices.length := by
  have single (sig : Signature) (p : PendingConfirmation) (status : TransactionStatus) :
      (confirmEntry rpc latencyMs sig p status).countP Effect.records = 1 := by
    simp only [confirmEntry, List.countP_append]
    by_cases late : latencyMs p > 30000 <;> cases status.isOk <;> simp [late, List.countP_cons, Effect.records]
  induction statuses generalizing i effects indices with
  | nil =>
      cases run
      rfl
  | cons status statuses ih =>
      cases status with
      | none => exact ih (i + 1) run
      | some status =>
          simp only [statusLoop, Option.bind_eq_bind, Option.bind_eq_some_iff] at run
          rcases run with ⟨sig, _, p, _, ⟨more, rest⟩, later, result⟩
          cases result
          rw [List.countP_append, single, ih (i + 1) later, List.length_cons, Nat.add_comm]

/-! ## The cycle -/

theorem length_parsedSignatures_le (pending : List PendingConfirmation) :
    (parsedSignatures pending).length ≤ pending.length :=
  List.length_filterMap_le _ _

/-- Both shortcuts of a cycle do what working through the statuses does. -/
theorem confirmationCycle_eq
    (answers : rpc.getSignatureStatuses (parsedSignatures pending) =
      some ((parsedSignatures pending).map statusOf)) :
    confirmationCycle rpc latencyMs pending =
      processStatuses rpc latencyMs pending (parsedSignatures pending)
        ((parsedSignatures pending).map statusOf) := by
  simp only [confirmationCycle, answers]
  cases shape : pending with
  | nil => rfl
  | cons p rest =>
      cases asked : parsedSignatures (p :: rest) with
      | nil => rfl
      | cons sig more => rfl

/-- A cycle drops the entries at the indices of the statuses, whatever it books. -/
theorem confirmationCycle_drops
    (answers : rpc.getSignatureStatuses (parsedSignatures pending) =
      some ((parsedSignatures pending).map statusOf)) :
    ∃ effects indices remaining,
      statusLoop rpc latencyMs (parsedSignatures pending) pending 0
          ((parsedSignatures pending).map statusOf) = some (effects, indices) ∧
        confirmationCycle rpc latencyMs pending = some (effects, remaining) ∧
        (marked (statusMarks statusOf pending) pending ++ remaining).Perm pending := by
  have width : ((parsedSignatures pending).map statusOf).length =
      (parsedSignatures pending).length := List.length_map ..
  have fits := length_parsedSignatures_le pending
  have run := @statusLoop_places rpc latencyMs (parsedSignatures pending) pending
    ((parsedSignatures pending).map statusOf) 0 (by omega) (by omega)
  rcases run with ⟨effects, run⟩
  have marks : ((parsedSignatures pending).map statusOf).map Option.isSome =
      statusMarks statusOf pending := List.map_map
  rw [marks] at run
  have removal := removeAll_places (statusMarks statusOf pending) pending
    (by rw [statusMarks, List.length_map]; exact fits)
  rcases removal with ⟨remaining, removed, together⟩
  refine ⟨effects, _, remaining, run, ?_, together⟩
  rw [confirmationCycle_eq answers]
  simp only [processStatuses, run, removed, Option.bind_eq_bind, Option.bind_some]
  rfl

/-- A cycle drops one entry for every confirmation it records, aligned or not. -/
theorem confirmationCycle_records
    (answers : rpc.getSignatureStatuses (parsedSignatures pending) =
      some ((parsedSignatures pending).map statusOf)) {effects : List Effect}
    {remaining : List PendingConfirmation}
    (cycle : confirmationCycle rpc latencyMs pending = some (effects, remaining)) :
    effects.countP Effect.records + remaining.length = pending.length := by
  rcases confirmationCycle_drops answers with
    ⟨effects', indices, remaining', run, cycle', together⟩
  rw [cycle] at cycle'
  cases cycle'
  have fits : (statusMarks statusOf pending).length ≤ pending.length := by
    rw [statusMarks, List.length_map]
    exact length_parsedSignatures_le pending
  have collected : indices = places (statusMarks statusOf pending) 0 := by
    have parsed : ((parsedSignatures pending).map statusOf).length =
        (parsedSignatures pending).length := List.length_map ..
    have listed := length_parsedSignatures_le pending
    rcases @statusLoop_places rpc latencyMs (parsedSignatures pending) pending
      ((parsedSignatures pending).map statusOf) 0 (by omega) (by omega) with ⟨_, run'⟩
    rw [run, List.map_map] at run'
    exact (Prod.mk.inj (Option.some_inj.mp run')).2
  rw [statusLoop_records _ 0 run, collected, ← length_marked _ 0 pending fits,
    ← List.length_append]
  exact together.length_eq

/-- What is left after the right entries were dropped is exactly the others. -/
theorem perm_others_iff (due : PendingConfirmation → Bool)
    {dropped remaining : List PendingConfirmation} (together : (dropped ++ remaining).Perm pending) :
    remaining.Perm (pending.filter fun p => !due p) ↔
      dropped.Perm (pending.filter due) := by
  have parts : (dropped ++ remaining).Perm
      (pending.filter due ++ pending.filter fun p => !due p) :=
    together.trans (List.filter_append_perm due pending).symm
  constructor
  · intro same
    exact (List.perm_append_right_iff _).mp (parts.trans (same.symm.append_left _))
  · intro same
    exact (List.perm_append_left_iff _).mp ((same.symm.append_right _).trans parts)

/-- A list that is not aligned, split at its last entry with a status. -/
theorem exists_last_of_not_aligned (misaligned : ¬Aligned statusOf pending) :
    ∃ front last back, pending = front ++ last :: back ∧
      (ownStatus statusOf last).isSome ∧ (∀ later ∈ back, ownStatus statusOf later = none) ∧
      ∃ p ∈ front, Signature.fromStr? p.signature = none := by
  induction pending using List.reverseRecOn with
  | nil => exact absurd List.Pairwise.nil misaligned
  | append_singleton init last ih =>
      cases own : ownStatus statusOf last with
      | none =>
          have earlier : ¬Aligned statusOf init := by
            intro aligned
            apply misaligned
            apply List.pairwise_append.mpr
            refine ⟨aligned, List.pairwise_singleton _ _, ?_⟩
            intro p _ later inside present
            rw [List.mem_singleton.mp inside, own] at present
            exact absurd present Bool.false_ne_true
          rcases ih earlier with ⟨front, q, back, rfl, status, behind, unparsed⟩
          refine ⟨front, q, back ++ [last], by simp, status, ?_, unparsed⟩
          intro later inside
          rcases List.mem_append.mp inside with former | latter
          · exact behind later former
          · rw [List.mem_singleton.mp latter, own]
      | some found =>
          refine ⟨init, last, [], rfl, by rw [own]; rfl, by simp, ?_⟩
          by_contra parses
          apply misaligned
          have all : ∀ p ∈ init, (Signature.fromStr? p.signature).isSome := by
            intro p inside
            apply Option.isSome_iff_ne_none.mpr
            intro unparsed
            exact parses ⟨p, inside, unparsed⟩
          apply List.pairwise_append.mpr
          refine ⟨?_, List.pairwise_singleton _ _, ?_⟩
          · exact List.pairwise_of_forall_mem_list fun p inside _ _ _ => all p inside
          · intro p inside later _ _
            exact all p inside

/-- When an entry that cannot be parsed stands before an entry with a status, the last
entry with a status is not dropped, so other entries are. -/
theorem not_perm_of_not_aligned (misaligned : ¬Aligned statusOf pending) :
    ¬(marked (statusMarks statusOf pending) pending).Perm
      (pending.filter fun p => (ownStatus statusOf p).isSome) := by
  intro same
  rcases exists_last_of_not_aligned misaligned with
    ⟨front, last, back, rfl, status, behind, unparsed⟩
  have marks : statusMarks statusOf (front ++ last :: back) =
      statusMarks statusOf front ++ (statusMarks statusOf [last] ++
        statusMarks statusOf back) := by
    rw [← List.singleton_append]
    simp only [statusMarks, parsedSignatures, List.filterMap_append, List.map_append]
  have single : (statusMarks statusOf [last]).length ≤ 1 := by
    rw [statusMarks, List.length_map]
    exact length_parsedSignatures_le [last]
  have fewer : (statusMarks statusOf front).length < front.length := by
    rw [statusMarks, List.length_map]
    rcases unparsed with ⟨p, inside, none⟩
    exact List.length_filterMap_lt_length_iff_exists.mpr ⟨p, inside, none⟩
  have inFront : (marked (statusMarks statusOf (front ++ last :: back))
      (front ++ last :: back)).Sublist front := by
    rw [marks, ← List.append_assoc]
    apply marked_sublist_front
    · rw [List.length_append]
      omega
    · exact statusMarks_false behind
  have dropped : (marked (statusMarks statusOf (front ++ last :: back))
      (front ++ last :: back)).filter (fun p => (ownStatus statusOf p).isSome) =
        marked (statusMarks statusOf (front ++ last :: back)) (front ++ last :: back) := by
    apply List.filter_eq_self.mpr
    intro p inside
    exact (List.mem_filter.mp (same.mem_iff.mp inside)).2
  have kept : (last :: back).filter (fun p => (ownStatus statusOf p).isSome) =
      last :: back.filter fun p => (ownStatus statusOf p).isSome :=
    List.filter_cons_of_pos status
  have few := (inFront.filter fun p => (ownStatus statusOf p).isSome).length_le
  rw [dropped, same.length_eq, List.filter_append, kept, List.length_append,
    List.length_cons] at few
  omega

theorem aligned_of_confirmsOwn
    (answers : rpc.getSignatureStatuses (parsedSignatures pending) =
      some ((parsedSignatures pending).map statusOf))
    (confirms : ConfirmsOwn statusOf rpc latencyMs pending) : Aligned statusOf pending := by
  rcases confirmationCycle_drops answers with
    ⟨effects, indices, remaining, run, cycle, together⟩
  rcases confirms with ⟨effects', remaining', result, _, left⟩
  have same : remaining' = remaining := by
    rw [cycle] at result
    exact (Prod.mk.inj (Option.some_inj.mp result)).2.symm
  subst same
  have others := perm_others_iff (fun p => (ownStatus statusOf p).isSome) together
  simp only [Option.not_isSome] at others
  by_contra misaligned
  exact not_perm_of_not_aligned misaligned (others.mp left)

theorem confirmsOwn_of_aligned
    (answers : rpc.getSignatureStatuses (parsedSignatures pending) =
      some ((parsedSignatures pending).map statusOf))
    (aligned : Aligned statusOf pending) : ConfirmsOwn statusOf rpc latencyMs pending := by
  rcases confirmationCycle_drops answers with
    ⟨effects, indices, remaining, run, cycle, together⟩
  rcases statusLoop_books [] pending [] rfl aligned with ⟨booked, places, run', books⟩
  have same : booked = effects := by
    rw [List.nil_append, List.nil_append, List.length_nil, run] at run'
    exact (Prod.mk.inj (Option.some_inj.mp run')).1.symm
  subst same
  have others := perm_others_iff (fun p => (ownStatus statusOf p).isSome) together
  simp only [Option.not_isSome] at others
  refine ⟨booked, remaining, cycle, .of_eq books, others.mpr ?_⟩
  exact .of_eq (marked_of_aligned aligned)

/-- A cycle treats every entry by its own status exactly when no entry that cannot be
parsed stands before an entry with a status. -/
theorem confirmsOwn_iff
    (answers : rpc.getSignatureStatuses (parsedSignatures pending) =
      some ((parsedSignatures pending).map statusOf)) :
    ConfirmsOwn statusOf rpc latencyMs pending ↔ Aligned statusOf pending :=
  ⟨aligned_of_confirmsOwn answers, confirmsOwn_of_aligned answers⟩

end

/-- A node that reports success for every signature and has no transaction to show. -/
def sampleConfirmationRpc : ConfirmationRpc where
  getSignatureStatuses := fun signatures => some (signatures.map fun _ => some ⟨true⟩)
  getTransaction := fun _ _ => none

/-- A trade sent to a node, under its transaction's signature. -/
def sampleTrade : PendingConfirmation where
  signature :=
    "2Ana1pUpv2ZbMVkwF5FXapYeBEjdxDatLn7nvJkhgTSXbs59SyZSx866bXirPgj8QQVB57uxHJBG1YFvkRbFj4T"
  estimatedNetProfitSol := 1 / 100
  priorityFeeSol := 1 / 1000

/-- A trade sent as a bundle, under the bundle's identifier. -/
def sampleBundle : PendingConfirmation where
  signature := "1e6ed65d77d6364eeaed5a745ba5c4985ae2b700dd85d7cf7f027bdf294a33fc"
  estimatedNetProfitSol := 2 / 100
  priorityFeeSol := 1 / 1000

theorem sampleTrade_parses : (Signature.fromStr? sampleTrade.signature).isSome := by
  decide +kernel

theorem sampleBundle_unparsed : Signature.fromStr? sampleBundle.signature = none := by
  decide +kernel

/-- Behind a trade that was sent to a node, a bundle does no harm. -/
theorem confirmsOwn_iff_sample :
    ConfirmsOwn (fun _ => some ⟨true⟩) sampleConfirmationRpc (fun _ => 400)
      [sampleTrade, sampleBundle] := by
  apply (confirmsOwn_iff rfl).mpr
  apply List.pairwise_pair.mpr
  intro _
  exact sampleTrade_parses

/-- In front of it, the bundle is booked and dropped in the trade's place. -/
theorem not_confirmsOwn_sample :
    ¬ConfirmsOwn (fun _ => some ⟨true⟩) sampleConfirmationRpc (fun _ => 400)
      [sampleBundle, sampleTrade] := by
  intro confirms
  have aligned := aligned_of_confirmsOwn rfl confirms
  have parses := List.pairwise_pair.mp aligned (by
    rcases Option.isSome_iff_exists.mp sampleTrade_parses with ⟨sig, parsed⟩
    rw [ownStatus_isSome parsed]
    rfl)
  rw [sampleBundle_unparsed] at parses
  exact Bool.false_ne_true parses

end AtomicArbitrage.Bot

import AtomicArbitrage.Library.AssocMap
import AtomicArbitrage.Library.Runs
import Mathlib.Data.Finset.Sort
import Mathlib.Data.List.Induction
import Mathlib.Logic.Function.Basic

/-!
# The whitelist

The mints that the bot trades are held in four sets and in a table of the database, which
is written incrementally.  Over both stands a single function: the standing of each mint,
if it has one.
-/

namespace AtomicArbitrage.Bot

/-- What the table says of a mint. -/
inductive Standing where
  | profitable
  | verified
  | blacklisted
deriving DecidableEq

/-- The rows of the table `whitelist`: mint to category. -/
abbrev WhitelistTable := AssocMap String String

/-- The `match` of `whitelist_load_all`. -/
def standingOf (category : String) : Standing :=
  match category with
  | "profitable" => .profitable
  | "blacklisted" => .blacklisted
  | _ => .verified

/-- `whitelist_load_all`: the profitable, the verified and the blacklisted mints. -/
def whitelistLoadAll (rows : List (String × String)) :
    List String × List String × List String :=
  rows.foldl (fun (profitable, verified, blacklisted) (mint, category) =>
    match standingOf category with
    | .profitable => (profitable ++ [mint], verified, blacklisted)
    | .blacklisted => (profitable, verified, blacklisted ++ [mint])
    | .verified => (profitable, verified ++ [mint], blacklisted)) ([], [], [])

/-- `whitelist_upsert`. -/
def whitelistUpsert (table : WhitelistTable) (mint category : String) : WhitelistTable :=
  table.insert mint category

/-- `whitelist_delete`, of a row that is not blacklisted. -/
def whitelistDelete (table : WhitelistTable) (mint : String) : WhitelistTable :=
  table.retain fun row => !(row.1 == mint && row.2 != "blacklisted")

/-- The sets in memory. -/
@[ext] structure Whitelist where
  profitable : Finset String
  verified : Finset String
  all : Finset String
  blacklisted : Finset String
deriving DecidableEq

/-- The sets with the table behind them. -/
structure WhitelistStore where
  memory : Whitelist
  table : WhitelistTable

namespace Whitelist

/-- `Whitelist::load`, of the rows in the order of the query's result. -/
def load (rows : List (String × String)) : Whitelist :=
  let (profitable, verified, blacklisted) := whitelistLoadAll rows
  { profitable := profitable.toFinset
    verified := verified.toFinset
    all := profitable.toFinset ∪ verified.toFinset
    blacklisted := blacklisted.toFinset }

end Whitelist

namespace WhitelistStore

/-! ## Operations -/

/-- `verify_and_add`. -/
def verifyAndAdd (s : WhitelistStore) (mint : String) : Bool × WhitelistStore :=
  if mint ∈ s.memory.all then (false, s)
  else if mint ∈ s.memory.blacklisted then (false, s)
  else
    (true,
      { memory :=
          { s.memory with
            verified := insert mint s.memory.verified
            all := insert mint s.memory.all }
        table := whitelistUpsert s.table mint "verified" })

/-- `mark_profitable`. -/
def markProfitable (s : WhitelistStore) (mint : String) : WhitelistStore :=
  if mint ∈ s.memory.verified then
    { memory :=
        { s.memory with
          verified := s.memory.verified.erase mint
          profitable := insert mint s.memory.profitable }
      table := whitelistUpsert s.table mint "profitable" }
  else s

/-- `remove_single_venue`: `profitable` is left alone once `verified` held the mint. -/
def removeSingleVenue (s : WhitelistStore) (mint : String) : Bool × WhitelistStore :=
  if mint ∈ s.memory.blacklisted then (false, s)
  else
    let (removed, memory) :=
      if mint ∈ s.memory.verified then
        (true, { s.memory with verified := s.memory.verified.erase mint })
      else if mint ∈ s.memory.profitable then
        (true, { s.memory with profitable := s.memory.profitable.erase mint })
      else (false, s.memory)
    if removed then
      (true,
        { memory := { memory with all := memory.all.erase mint }
          table := whitelistDelete s.table mint })
    else (false, { s with memory })

inductive Operation where
  | verifyAndAdd (mint : String)
  | markProfitable (mint : String)
  | removeSingleVenue (mint : String)

def apply (s : WhitelistStore) : Operation → WhitelistStore
  | .verifyAndAdd mint => (s.verifyAndAdd mint).2
  | .markProfitable mint => s.markProfitable mint
  | .removeSingleVenue mint => (s.removeSingleVenue mint).2

/-- The state after a start. -/
def loaded (table : WhitelistTable) : WhitelistStore where
  memory := .load table.entries
  table := table

/-! ## Standings -/

end WhitelistStore

/-- The standing of each mint. -/
abbrev Standings := String → Option Standing

/-- The standings that a table records. -/
def WhitelistTable.standings (table : WhitelistTable) : Standings :=
  fun mint => (AssocMap.get table mint).map standingOf

/-- The four sets of some standings. -/
structure Whitelist.Shows (w : Whitelist) (standings : Standings) : Prop where
  profitable : ∀ mint, mint ∈ w.profitable ↔ standings mint = some .profitable
  verified : ∀ mint, mint ∈ w.verified ↔ standings mint = some .verified
  all : ∀ mint, mint ∈ w.all ↔
    standings mint = some .profitable ∨ standings mint = some .verified
  blacklisted : ∀ mint, mint ∈ w.blacklisted ↔ standings mint = some .blacklisted

/-- What an operation does to the standings: a new mint is verified, a verified one
becomes profitable, and either loses its standing again. -/
def WhitelistStore.Operation.act (standings : Standings) : Operation → Standings
  | .verifyAndAdd mint =>
      if standings mint = none then Function.update standings mint (some .verified)
      else standings
  | .markProfitable mint =>
      if standings mint = some .verified then
        Function.update standings mint (some .profitable)
      else standings
  | .removeSingleVenue mint =>
      if standings mint = some .blacklisted then standings
      else Function.update standings mint none

/-! ## Loading -/

/-- The mints of one standing, in the order of the rows. -/
def mintsOf (standing : Standing) (rows : List (String × String)) : List String :=
  (rows.filter fun row => standingOf row.2 = standing).map Prod.fst

theorem whitelistLoadAll_eq (rows : List (String × String)) :
    whitelistLoadAll rows =
      (mintsOf .profitable rows, mintsOf .verified rows, mintsOf .blacklisted rows) := by
  induction rows using List.reverseRecOn with
  | nil => rfl
  | append_singleton rows row ih =>
      rw [whitelistLoadAll] at ih ⊢
      rw [List.foldl_append, ih]
      cases standing : standingOf row.2 <;> simp [mintsOf, standing]

theorem mem_mintsOf {standing : Standing} {rows : List (String × String)} {mint : String} :
    mint ∈ mintsOf standing rows ↔
      ∃ category, (mint, category) ∈ rows ∧ standingOf category = standing := by
  simp [mintsOf]

/-- A load shows the standings of the table, whatever the order of its rows. -/
theorem shows_load {table : WhitelistTable} {rows : List (String × String)}
    (order : rows.Perm table.entries) : (Whitelist.load rows).Shows table.standings := by
  have listed (standing : Standing) (mint : String) :
      mint ∈ mintsOf standing rows ↔ table.standings mint = some standing := by
    simp only [mem_mintsOf, order.mem_iff, AssocMap.mem_entries_iff, WhitelistTable.standings,
      Option.map_eq_some_iff]
  rw [Whitelist.load]
  rw [whitelistLoadAll_eq]
  constructor
  · intro mint
    rw [List.mem_toFinset, listed]
  · intro mint
    rw [List.mem_toFinset, listed]
  · intro mint
    rw [Finset.mem_union, List.mem_toFinset, List.mem_toFinset, listed, listed]
  · intro mint
    rw [List.mem_toFinset, listed]

namespace Whitelist.Shows

variable {w : Whitelist} {standings : Standings}

/-- Sets show standings when they do so mint by mint. -/
theorem of_forall (each : ∀ mint,
    (mint ∈ w.profitable ↔ standings mint = some .profitable) ∧
      (mint ∈ w.verified ↔ standings mint = some .verified) ∧
      (mint ∈ w.all ↔ standings mint = some .profitable ∨ standings mint = some .verified) ∧
      (mint ∈ w.blacklisted ↔ standings mint = some .blacklisted)) : w.Shows standings where
  profitable := fun mint => (each mint).1
  verified := fun mint => (each mint).2.1
  all := fun mint => (each mint).2.2.1
  blacklisted := fun mint => (each mint).2.2.2

/-- The standings determine the four sets. -/
theorem unique {other : Whitelist} (left : w.Shows standings) (right : other.Shows standings) :
    w = other := by
  apply Whitelist.ext
  · apply Finset.ext
    intro mint
    rw [left.profitable, right.profitable]
  · apply Finset.ext
    intro mint
    rw [left.verified, right.verified]
  · apply Finset.ext
    intro mint
    rw [left.all, right.all]
  · apply Finset.ext
    intro mint
    rw [left.blacklisted, right.blacklisted]

theorem all_eq (left : w.Shows standings) : w.all = w.profitable ∪ w.verified := by
  apply Finset.ext
  intro mint
  rw [Finset.mem_union, left.all, left.profitable, left.verified]

/-- A mint has one standing. -/
theorem disjoint (left : w.Shows standings) :
    Disjoint w.profitable w.verified ∧ Disjoint w.profitable w.blacklisted ∧
      Disjoint w.verified w.blacklisted := by
  refine ⟨?_, ?_, ?_⟩
  · apply Finset.disjoint_left.mpr
    intro mint first
    rw [left.verified, (left.profitable mint).mp first]
    exact nofun
  · apply Finset.disjoint_left.mpr
    intro mint first
    rw [left.blacklisted, (left.profitable mint).mp first]
    exact nofun
  · apply Finset.disjoint_left.mpr
    intro mint first
    rw [left.blacklisted, (left.verified mint).mp first]
    exact nofun

end Whitelist.Shows

/-! ## Steps -/

theorem standings_upsert (table : WhitelistTable) (mint category : String) :
    (whitelistUpsert table mint category).standings =
      Function.update table.standings mint (some (standingOf category)) := by
  funext other
  rw [whitelistUpsert, WhitelistTable.standings]
  rw [AssocMap.get_insert, Function.update_apply]
  split
  · rfl
  · rfl

/-- The database's own guard of blacklisted rows never stops a removal that the memory
lets through. -/
theorem standings_delete {table : WhitelistTable} {mint : String}
    (listed : table.standings mint ≠ some .blacklisted) :
    (whitelistDelete table mint).standings = Function.update table.standings mint none := by
  funext other
  unfold whitelistDelete WhitelistTable.standings
  rw [AssocMap.get_retain, Function.update_apply]
  by_cases same : other = mint
  · subst same
    rw [if_pos rfl]
    rw [WhitelistTable.standings] at listed
    cases held : AssocMap.get table other with
    | none => rfl
    | some category =>
        have other : category ≠ "blacklisted" := by
          intro black
          rw [held, black] at listed
          exact listed rfl
        simp [other]
  · rw [if_neg same]
    cases AssocMap.get table other with
    | none => rfl
    | some category => simp [same]

namespace WhitelistStore

/-- The sets in memory show the standings of the table. -/
def Mirrored (s : WhitelistStore) : Prop :=
  s.memory.Shows s.table.standings

theorem mirrored_loaded (table : WhitelistTable) : Mirrored (loaded table) :=
  shows_load (.refl _)

section

variable {s : WhitelistStore} (mirrored : Mirrored s)
include mirrored

theorem verifyAndAdd_refines (mint : String) :
    Mirrored (s.verifyAndAdd mint).2 ∧
      (s.verifyAndAdd mint).2.table.standings =
        Operation.act s.table.standings (.verifyAndAdd mint) := by
  have shows : s.memory.Shows s.table.standings := mirrored
  simp only [verifyAndAdd, Operation.act, shows.all, shows.blacklisted]
  cases standing : s.table.standings mint with
  | some held => cases held <;> simpa using mirrored
  | none =>
      simp only [reduceCtorEq, or_self, if_false, if_true]
      refine ⟨?_, standings_upsert _ _ _⟩
      rw [Mirrored]
      rw [standings_upsert]
      apply Whitelist.Shows.of_forall
      intro other
      by_cases same : other = mint
      · simp [same, standing, standingOf, shows.profitable, shows.blacklisted]
      · simp [same, shows.profitable, shows.verified, shows.all, shows.blacklisted]

theorem markProfitable_refines (mint : String) :
    Mirrored (s.markProfitable mint) ∧
      (s.markProfitable mint).table.standings =
        Operation.act s.table.standings (.markProfitable mint) := by
  have shows : s.memory.Shows s.table.standings := mirrored
  simp only [markProfitable, Operation.act, shows.verified]
  by_cases standing : s.table.standings mint = some .verified
  · rw [if_pos standing, if_pos standing]
    refine ⟨?_, standings_upsert _ _ _⟩
    rw [Mirrored]
    rw [standings_upsert]
    apply Whitelist.Shows.of_forall
    intro other
    by_cases same : other = mint
    · simp [same, standing, standingOf, shows.all, shows.blacklisted]
    · simp [same, shows.profitable, shows.verified, shows.all, shows.blacklisted]
  · rw [if_neg standing, if_neg standing]
    exact ⟨mirrored, rfl⟩

/-- The short circuit leaves nothing behind: no mint stands in both sets. -/
theorem removeSingleVenue_refines (mint : String) :
    Mirrored (s.removeSingleVenue mint).2 ∧
      (s.removeSingleVenue mint).2.table.standings =
        Operation.act s.table.standings (.removeSingleVenue mint) := by
  have shows : s.memory.Shows s.table.standings := mirrored
  simp only [removeSingleVenue, Operation.act, shows.verified, shows.profitable,
    shows.blacklisted]
  cases standing : s.table.standings mint with
  | none =>
      have unchanged : Function.update s.table.standings mint none = s.table.standings := by
        rw [← standing, Function.update_eq_self]
      simpa [unchanged] using mirrored
  | some held =>
      have deleted (listed : held ≠ .blacklisted) :
          (whitelistDelete s.table mint).standings =
            Function.update s.table.standings mint none := by
        apply standings_delete
        rw [standing]
        exact fun black => listed (Option.some_inj.mp black)
      cases held with
      | blacklisted => simpa using mirrored
      | verified =>
          refine ⟨?_, deleted nofun⟩
          rw [Mirrored]
          apply Whitelist.Shows.of_forall
          intro other
          by_cases same : other = mint
          · simp [deleted, same, standing, shows.profitable, shows.verified, shows.blacklisted]
          · simp [deleted, same, shows.profitable, shows.verified, shows.all,
              shows.blacklisted]
      | profitable =>
          refine ⟨?_, deleted nofun⟩
          rw [Mirrored]
          apply Whitelist.Shows.of_forall
          intro other
          by_cases same : other = mint
          · simp [deleted, same, standing, shows.profitable, shows.verified, shows.blacklisted]
          · simp [deleted, same, shows.profitable, shows.verified, shows.all,
              shows.blacklisted]

theorem apply_refines (operation : Operation) :
    Mirrored (s.apply operation) ∧
      (s.apply operation).table.standings = operation.act s.table.standings := by
  cases operation with
  | verifyAndAdd mint => exact verifyAndAdd_refines mirrored mint
  | markProfitable mint => exact markProfitable_refines mirrored mint
  | removeSingleVenue mint => exact removeSingleVenue_refines mirrored mint

end

/-- No operation blacklists a mint or clears one. -/
theorem act_eq_blacklisted (standings : Standings) (operation : Operation) (mint : String) :
    operation.act standings mint = some .blacklisted ↔ standings mint = some .blacklisted := by
  have elsewhere {held : String} {new : Option Standing}
      (before : standings held ≠ some .blacklisted) (after : new ≠ some .blacklisted) :
      Function.update standings held new mint = some .blacklisted ↔
        standings mint = some .blacklisted := by
    rw [Function.update_apply]
    split
    · next same =>
        subst same
        exact iff_of_false after before
    · rfl
  cases operation with
  | verifyAndAdd held =>
      simp only [Operation.act]
      split
      · next fresh => exact elsewhere (by rw [fresh]; exact nofun) nofun
      · rfl
  | markProfitable held =>
      simp only [Operation.act]
      split
      · next verified => exact elsewhere (by rw [verified]; exact nofun) nofun
      · rfl
  | removeSingleVenue held =>
      simp only [Operation.act]
      split
      · rfl
      · next listed => exact elsewhere listed nofun

theorem blacklisted_apply {s : WhitelistStore} (mirrored : Mirrored s)
    (operation : Operation) :
    (s.apply operation).memory.blacklisted = s.memory.blacklisted := by
  rcases apply_refines mirrored operation with ⟨after, standings⟩
  apply Finset.ext
  intro mint
  rw [after.blacklisted, mirrored.blacklisted, standings, act_eq_blacklisted]

theorem disjoint_blacklisted {s : WhitelistStore} (mirrored : Mirrored s) :
    Disjoint s.memory.all s.memory.blacklisted := by
  rcases mirrored.disjoint with ⟨_, profitable, verified⟩
  rw [mirrored.all_eq, Finset.disjoint_union_left]
  exact ⟨profitable, verified⟩

/-- The invariant of a run: the sets show the table, and these mints are blacklisted. -/
def InStep (blacklisted : Finset String) (s : WhitelistStore) : Prop :=
  Mirrored s ∧ s.memory.blacklisted = blacklisted

theorem InStep.apply {blacklisted : Finset String} {s : WhitelistStore}
    (inStep : InStep blacklisted s) (operation : Operation) :
    InStep blacklisted (s.apply operation) :=
  ⟨(apply_refines inStep.1 operation).1, (blacklisted_apply inStep.1 operation).trans inStep.2⟩

/-- After every run the sets are in step with each other and with the table, and no
operation lists a blacklisted mint. -/
theorem whitelist_in_step (table : WhitelistTable) (run : List Operation) :
    let s := Runs.final apply (loaded table) run
    s.memory.all = s.memory.profitable ∪ s.memory.verified ∧
      (Disjoint s.memory.profitable s.memory.verified ∧
        Disjoint s.memory.profitable s.memory.blacklisted ∧
        Disjoint s.memory.verified s.memory.blacklisted) ∧
      s.memory.blacklisted = (loaded table).memory.blacklisted ∧
      (∀ operation, Disjoint (s.apply operation).memory.all s.memory.blacklisted) ∧
      ∀ rows, rows.Perm s.table.entries → Whitelist.load rows = s.memory := by
  intro s
  have kept : InStep (loaded table).memory.blacklisted s :=
    Runs.final_of_kept run ⟨mirrored_loaded table, rfl⟩
      fun _ operation inStep => inStep.apply operation
  rcases kept with ⟨mirrored, blacklisted⟩
  refine ⟨mirrored.all_eq, mirrored.disjoint, blacklisted, ?_, ?_⟩
  · intro operation
    rw [← blacklisted_apply mirrored operation]
    exact disjoint_blacklisted (apply_refines mirrored operation).1
  · intro rows order
    exact (shows_load order).unique mirrored

end WhitelistStore

end AtomicArbitrage.Bot

import AtomicArbitrage.Bot.TipInjection

/-!
# Two readings of a lookup table

A transaction is compiled against the addresses that the SDK reads from a table account.
When a tip is injected into it, the addresses are read once more by a function of the
bot, which takes the header for shorter than it is.
-/

namespace AtomicArbitrage.Bot

open Client Outcome

/-! ## Reading by the SDK -/

/-- `LOOKUP_TABLE_META_SIZE`. -/
def lookupTableMetaSize : ℕ := 56

def altCacheSlots : ℕ := 500

/-- The table that was read last, and when. -/
structure CachedAlt where
  address : Pubkey
  alt : AddressLookupTableAccount
  slot : UInt64

/-- `get_alt`: from the cache while that is young enough, else from the account, which
`AddressLookupTable::deserialize` reads. -/
def getAlt (deserialize : List UInt8 → Option (List Pubkey)) (cache : Option CachedAlt)
    (currentSlot : UInt64) (account : Option (List UInt8)) (altAddress : Pubkey) :
    ClientResult AddressLookupTableAccount := do
  let cached := cache.filter fun held =>
    held.address = altAddress ∧ currentSlot.toNat - held.slot.toNat < altCacheSlots
  match cached with
  | some held => pure held.alt
  | none =>
      let data ← orFail account (.bail "fetch ALT account")
      let addresses ← orFail (deserialize data) (.bail "deserialize ALT state")
      pure { key := altAddress, addresses }

/-- A table account: a header, and behind it the bytes of the addresses. -/
structure TableAccount where
  header : List UInt8
  addresses : List Pubkey
  size : header.length = lookupTableMetaSize

namespace TableAccount

variable (table : TableAccount)

/-- The bytes behind the header. -/
def packed : List UInt8 := table.addresses.flatMap Pubkey.bytes

def data : List UInt8 := table.header ++ table.packed

/-- The part of the header that the bot takes for addresses. -/
def tail : List UInt8 := table.header.drop 32

/-- Both decoders read the same addresses: what the bot fetches is what the transaction was
compiled against. -/
def Agrees (deserialize : List UInt8 → Option (List Pubkey)) (currentSlot : UInt64)
    (altAddress : Pubkey) : Prop :=
  getAlt deserialize none currentSlot (some table.data) altAddress =
    .ok { key := altAddress, addresses := fetchAltViaRpc (some table.data) }

/-- The bytes of the addresses repeat the last bytes of the header over and over. -/
def RepeatsTail : Prop :=
  ∀ index < table.packed.length,
    table.packed[index]? = table.tail[index % table.tail.length]?

instance : Decidable table.RepeatsTail :=
  inferInstanceAs (Decidable (∀ index < table.packed.length,
    table.packed[index]? = table.tail[index % table.tail.length]?))

end TableAccount

/-! ## Chunks -/

theorem length_flatMap_bytes (keys : List Pubkey) :
    (keys.flatMap Pubkey.bytes).length = 32 * keys.length := by
  induction keys with
  | nil => rfl
  | cons key keys ih =>
      rw [List.flatMap_cons, List.length_append, ih, key.size, List.length_cons]
      ring

/-- The chunks of packed keys are the keys. -/
theorem chunksExact_flatMap (keys : List Pubkey) (rest : List UInt8) :
    chunksExact keys.length (keys.flatMap Pubkey.bytes ++ rest) = keys := by
  induction keys with
  | nil => rfl
  | cons key keys ih =>
      have first : (key.bytes ++ (keys.flatMap Pubkey.bytes ++ rest)).take 32 = key.bytes :=
        List.take_left' key.size
      have others : (key.bytes ++ (keys.flatMap Pubkey.bytes ++ rest)).drop 32 =
          keys.flatMap Pubkey.bytes ++ rest := List.drop_left' key.size
      rw [List.flatMap_cons, List.append_assoc, List.length_cons, chunksExact, others, ih]
      simp only [first, key.size, dite_true]

/-- Chunks of as many bytes as there are make up the bytes again. -/
theorem flatMap_chunksExact {count : ℕ} {data : List UInt8} (enough : 32 * count ≤ data.length) :
    (chunksExact count data).flatMap Pubkey.bytes = data.take (32 * count) := by
  induction count generalizing data with
  | zero => rfl
  | succ count ih =>
      have size : (data.take 32).length = 32 := by
        rw [List.length_take]
        omega
      have rest : 32 * count ≤ (data.drop 32).length := by
        rw [List.length_drop]
        omega
      rw [chunksExact, dif_pos size, List.flatMap_cons, ih rest, Nat.mul_succ,
        Nat.add_comm (32 * count), List.take_add]

/-- Packed keys stand in front of some bytes exactly when the chunks are the keys. -/
theorem chunksExact_eq_iff {keys : List Pubkey} {data : List UInt8}
    (enough : 32 * keys.length ≤ data.length) :
    chunksExact keys.length data = keys ↔
      data.take (keys.flatMap Pubkey.bytes).length = keys.flatMap Pubkey.bytes := by
  rw [length_flatMap_bytes]
  constructor
  · intro chunks
    rw [← flatMap_chunksExact enough, chunks]
  · intro stands
    have whole := chunksExact_flatMap keys (data.drop (32 * keys.length))
    rwa [← stands, List.take_append_drop] at whole

/-- A list is in front of itself behind another one exactly when it repeats that one. -/
theorem take_append_eq_iff {front list : List UInt8} (some : front ≠ []) :
    (front ++ list).take list.length = list ↔
      ∀ index < list.length, list[index]? = front[index % front.length]? := by
  have pos : 0 < front.length := List.length_pos_iff.mpr some
  have entry (index : ℕ) (inside : index < list.length) :
      ((front ++ list).take list.length)[index]? =
        if index < front.length then front[index]? else list[index - front.length]? := by
    rw [List.getElem?_take_of_lt inside, List.getElem?_append]
  constructor
  · intro same index
    induction index using Nat.strong_induction_on with
    | _ index ih =>
        intro inside
        have here := entry index inside
        rw [same] at here
        split at here
        · next early => rw [here, Nat.mod_eq_of_lt early]
        · next late =>
            rw [here, ih (index - front.length) (by omega) (by omega),
              ← Nat.mod_eq_sub_mod (Nat.not_lt.mp late)]
  · intro repeats
    apply List.ext_getElem?
    intro index
    rcases Nat.lt_or_ge index list.length with inside | outside
    · rw [entry index inside, repeats index inside]
      split
      · next early => rw [Nat.mod_eq_of_lt early]
      · next late =>
          rw [repeats (index - front.length) (by omega),
            ← Nat.mod_eq_sub_mod (Nat.not_lt.mp late)]
    · rw [List.getElem?_eq_none outside, List.getElem?_eq_none]
      rw [List.length_take]
      exact (min_le_left _ _).trans outside

/-! ## Agreement -/

namespace TableAccount

variable {table : TableAccount}

theorem length_tail : table.tail.length = 24 := by
  rw [tail, List.length_drop, table.size]
  rfl

/-- The bot reads as many addresses as there are, from the tail of the header on. -/
theorem fetchAltViaRpc_data :
    fetchAltViaRpc (some table.data) =
      chunksExact table.addresses.length (table.tail ++ table.packed) := by
  have length : table.data.length = 56 + 32 * table.addresses.length := by
    rw [data, List.length_append, table.size, packed, length_flatMap_bytes]
    rfl
  have rest : table.data.drop 32 = table.tail ++ table.packed := by
    rw [data, List.drop_append_of_le_length (by rw [table.size]; decide)]
    rfl
  have count : (table.data.length - 32) / 32 = table.addresses.length := by omega
  simp only [fetchAltViaRpc, rest, count]
  exact if_pos (by omega)

/-- For a table account that the SDK reads as it is laid out, the two decoders agree exactly
when the bytes of the addresses repeat the last bytes of the header, as those of no
addresses do. -/
theorem decoders_agree_iff (table : TableAccount) (deserialize : List UInt8 → Option (List Pubkey))
    (currentSlot : UInt64) (altAddress : Pubkey)
    (deserializes : deserialize table.data = some table.addresses) :
    table.Agrees deserialize currentSlot altAddress ↔ table.RepeatsTail := by
  have compiled : getAlt deserialize none currentSlot (some table.data) altAddress =
      .ok { key := altAddress, addresses := table.addresses } := by
    rw [getAlt, Option.filter_none]
    change (orFail (deserialize table.data) _ >>= _) = _
    rw [deserializes]
    rfl
  have some : table.tail ≠ [] := by
    apply List.ne_nil_of_length_pos
    rw [length_tail]
    decide
  have enough : 32 * table.addresses.length ≤ (table.tail ++ table.packed).length := by
    rw [List.length_append, packed, length_flatMap_bytes]
    exact Nat.le_add_left _ _
  rw [Agrees, compiled, RepeatsTail, ← take_append_eq_iff some]
  rw [packed] at enough ⊢
  rw [← chunksExact_eq_iff enough, fetchAltViaRpc_data, packed]
  constructor
  · intro same
    exact (congrArg AddressLookupTableAccount.addresses (Except.ok.inj same)).symm
  · intro same
    rw [same]

/-- The reading of the SDK, for accounts of any length: a header of its own size. -/
def sdkDeserialize (data : List UInt8) : Option (List Pubkey) :=
  if lookupTableMetaSize ≤ data.length then
    some (chunksExact ((data.length - lookupTableMetaSize) / 32)
      (data.drop lookupTableMetaSize))
  else none

/-- The header of a table that was frozen: its kind, the slots, and no authority. -/
def frozenHeader : List UInt8 := [1, 0, 0, 0] ++ List.replicate 8 255 ++ List.replicate 44 0

/-- A frozen table that holds the system program alone. -/
def systemTable : TableAccount where
  header := frozenHeader
  addresses := [.zero]
  size := rfl

theorem decoders_agree_systemTable : systemTable.Agrees sdkDeserialize 0 .zero :=
  (decoders_agree_iff systemTable sdkDeserialize 0 .zero (by decide)).mpr (by decide)

/-- A frozen table that holds another address. -/
def sampleTable : TableAccount where
  header := frozenHeader
  addresses := [⟨List.replicate 32 7, List.length_replicate⟩]
  size := rfl

theorem not_decoders_agree_sample :
    ¬∀ (table : TableAccount) (deserialize : List UInt8 → Option (List Pubkey))
      (currentSlot : UInt64) (altAddress : Pubkey),
      deserialize table.data = some table.addresses →
        table.Agrees deserialize currentSlot altAddress := by
  intro all
  have same := all sampleTable sdkDeserialize 0 .zero (by decide)
  have addresses := congrArg (fun result => result.toOption.map (fun alt => alt.addresses)) same
  exact absurd addresses (by decide)

end TableAccount

end AtomicArbitrage.Bot

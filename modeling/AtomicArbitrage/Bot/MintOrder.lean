import AtomicArbitrage.Client.Constants
import AtomicArbitrage.Solana.Base58

/-!
# The order of mints

The pools of a pair are found at addresses that are derived from its two mints in
ascending order.  The caches order the mints by their base 58 text, in which a shorter
text precedes a longer one as if it went on behind its last character.
-/

namespace AtomicArbitrage.Bot

open Positional Client

/-- The order of the two mints in the seeds: `if t0 < t1 { (t0, t1) } else { (t1, t0) }`. -/
def sortMints (t0 t1 : String) : String × String :=
  if t0 < t1 then (t0, t1) else (t1, t0)

/-- The seeds of a pair are its keys in ascending order. -/
def SeedsAscend (a b : Pubkey) : Prop :=
  ∃ low high : Pubkey, sortMints a.toBase58 b.toBase58 = (low.toBase58, high.toBase58) ∧
    low.bytes < high.bytes

/-- The shorter text belongs to the smaller number, but would not any more if zeros were
put behind it to the length of the other. -/
def Crosses (short long : Pubkey) : Prop :=
  short.base58Digits.length < long.base58Digits.length ∧ short.number < long.number ∧
    long.number <
      short.number * 58 ^ (long.base58Digits.length - short.base58Digits.length)

/-- The text of an address is ordered as its digits are. -/
theorem toBase58_lt_iff (a b : Pubkey) :
    a.toBase58 < b.toBase58 ↔ a.base58Digits < b.base58Digits := by
  have lists : a.base58Digits.map Pubkey.digitChar < b.base58Digits.map Pubkey.digitChar ↔
      a.base58Digits < b.base58Digits :=
    map_lt_map_iff (fun _ _ small small' => Pubkey.digitChar_lt_iff small small')
      (fun _ _ small small' => Pubkey.digitChar_inj small small')
      a.digits_small b.digits_small
  change a.toBase58.toList < b.toBase58.toList ↔ _
  rw [← lists, Pubkey.toBase58, Pubkey.toBase58, String.toList_ofList, String.toList_ofList]

/-- The two orders agree on two addresses exactly when they do not cross. -/
theorem orders_agree_iff {a b : Pubkey} (distinct : a ≠ b) :
    (a.toBase58 < b.toBase58 ↔ a.bytes < b.bytes) ↔ ¬Crosses a b ∧ ¬Crosses b a := by
  have differ : a.number ≠ b.number := fun same => distinct (Pubkey.number_injective same)
  have value_a := a.value_base58Digits
  have value_b := b.value_base58Digits
  rw [toBase58_lt_iff, Pubkey.bytes_lt_iff]
  simp only [Crosses]
  rcases Nat.lt_trichotomy a.base58Digits.length b.base58Digits.length with
    shorter | same | longer
  · have order := lt_iff_of_length_lt shorter a.digits_small b.digits_small
    have grows : a.number ≤
        a.number * 58 ^ (b.base58Digits.length - a.base58Digits.length) :=
      Nat.le_mul_of_pos_right _ (Nat.pow_pos (by decide))
    rw [value_a, value_b] at order
    rw [order]
    omega
  · have order := lt_iff_of_length_eq same a.digits_small b.digits_small
    rw [value_a, value_b] at order
    rw [order, same]
    omega
  · have order := lt_iff_of_lt_length longer b.digits_small a.digits_small
    have grows : b.number ≤
        b.number * 58 ^ (a.base58Digits.length - b.base58Digits.length) :=
      Nat.le_mul_of_pos_right _ (Nat.pow_pos (by decide))
    rw [value_a, value_b] at order
    rw [order]
    omega

/-- The seeds ascend exactly when the text order of the pair is the byte order. -/
theorem seedsAscend_iff_order {a b : Pubkey} (distinct : a ≠ b) :
    SeedsAscend a b ↔ (a.toBase58 < b.toBase58 ↔ a.bytes < b.bytes) := by
  have differ : a.number ≠ b.number := fun same => distinct (Pubkey.number_injective same)
  have pair (low high : Pubkey) (sorted : sortMints a.toBase58 b.toBase58 =
      (low.toBase58, high.toBase58)) :
      (a.toBase58 < b.toBase58 ∧ low = a ∧ high = b) ∨
        (¬a.toBase58 < b.toBase58 ∧ low = b ∧ high = a) := by
    rw [sortMints] at sorted
    split at sorted
    · next less =>
        rw [Prod.mk.injEq] at sorted
        exact .inl ⟨less, (Pubkey.toBase58_injective sorted.1).symm,
          (Pubkey.toBase58_injective sorted.2).symm⟩
    · next more =>
        rw [Prod.mk.injEq] at sorted
        exact .inr ⟨more, (Pubkey.toBase58_injective sorted.1).symm,
          (Pubkey.toBase58_injective sorted.2).symm⟩
  constructor
  · intro ascend
    rcases ascend with ⟨low, high, sorted, less⟩
    rcases pair low high sorted with ⟨text, rfl, rfl⟩ | ⟨text, rfl, rfl⟩
    · exact iff_of_true text less
    · rw [Pubkey.bytes_lt_iff] at less ⊢
      exact iff_of_false text (Nat.not_lt.mpr less.le)
  · intro order
    by_cases text : a.toBase58 < b.toBase58
    · exact ⟨a, b, if_pos text, order.mp text⟩
    · refine ⟨b, a, if_neg text, ?_⟩
      have bytes := mt order.mpr text
      rw [Pubkey.bytes_lt_iff] at bytes ⊢
      omega

/-- The seeds of a pair ascend, and its text order is its byte order, exactly when the two
addresses do not cross; texts of one length never do. -/
theorem seedsAscend_iff {a b : Pubkey} (distinct : a ≠ b) :
    (SeedsAscend a b ↔ ¬Crosses a b ∧ ¬Crosses b a) ∧
      ((a.toBase58 < b.toBase58 ↔ a.bytes < b.bytes) ↔ ¬Crosses a b ∧ ¬Crosses b a) :=
  ⟨(seedsAscend_iff_order distinct).trans (orders_agree_iff distinct),
    orders_agree_iff distinct⟩

/-! ## Known mints -/

theorem mints_parse : ∀ text ∈ [nativeSolMint, usdcMint, usdtMint],
    (Pubkey.fromStr? text).isSome := by
  decide +kernel

/-- The text of an address read from a text is that text. -/
theorem toBase58_ofLiteral {text : String} (parses : (Pubkey.fromStr? text).isSome) :
    (Pubkey.ofLiteral text).toBase58 = text := by
  rcases Option.isSome_iff_exists.mp parses with ⟨key, parsed⟩
  rw [Pubkey.ofLiteral, parsed, Option.getD_some]
  exact Pubkey.toBase58_of_fromStr? parsed

theorem length_base58Digits_ofLiteral {text : String}
    (parses : (Pubkey.fromStr? text).isSome) :
    (Pubkey.ofLiteral text).base58Digits.length = text.toList.length := by
  have written := congrArg String.toList (toBase58_ofLiteral parses)
  rw [Pubkey.toBase58, String.toList_ofList] at written
  rw [← written, List.length_map]

/-- Two mints with forty-four characters each are in the right order. -/
theorem seedsAscend_iff_sample :
    SeedsAscend (.ofLiteral usdcMint) (.ofLiteral usdtMint) := by
  apply (seedsAscend_iff (by decide +kernel)).1.mpr
  have usdc := length_base58Digits_ofLiteral (mints_parse usdcMint (by simp))
  have usdt := length_base58Digits_ofLiteral (mints_parse usdtMint (by simp))
  have same : usdcMint.toList.length = usdtMint.toList.length := by decide
  refine ⟨fun crosses => ?_, fun crosses => ?_⟩
  · exact absurd crosses.1 (by omega)
  · exact absurd crosses.1 (by omega)

/-- Wrapped SOL has forty-three characters: as bytes it precedes the dollar mint, as text
it does not. -/
theorem not_seedsAscend_sol :
    ¬SeedsAscend (.ofLiteral nativeSolMint) (.ofLiteral usdcMint) ∧
      ¬((Pubkey.ofLiteral nativeSolMint).toBase58 < (Pubkey.ofLiteral usdcMint).toBase58 ↔
        (Pubkey.ofLiteral nativeSolMint).bytes < (Pubkey.ofLiteral usdcMint).bytes) := by
  have text : ¬nativeSolMint < usdcMint := by decide
  have bytes : (Pubkey.ofLiteral nativeSolMint).bytes < (Pubkey.ofLiteral usdcMint).bytes := by
    decide +kernel
  have disagree : ¬((Pubkey.ofLiteral nativeSolMint).toBase58 <
      (Pubkey.ofLiteral usdcMint).toBase58 ↔
        (Pubkey.ofLiteral nativeSolMint).bytes < (Pubkey.ofLiteral usdcMint).bytes) := by
    rw [toBase58_ofLiteral (mints_parse nativeSolMint (by simp)),
      toBase58_ofLiteral (mints_parse usdcMint (by simp))]
    exact fun order => text (order.mpr bytes)
  exact ⟨fun ascend => disagree ((seedsAscend_iff_order (by decide +kernel)).mp ascend),
    disagree⟩

end AtomicArbitrage.Bot

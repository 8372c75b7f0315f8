import Mathlib.Data.Nat.Digits.Lemmas
import Mathlib.Data.List.Lex

/-!
# Positional numbers and their order

Digit lists are read with the most significant digit first.  Lists of one length are
ordered as their numbers are; lists of different lengths are ordered as if the shorter one
went on behind its last digit, and not as if it had zeros in front.
-/

namespace Positional

/-- The number that a list of digits denotes, most significant digit first. -/
def value (base : ℕ) (digits : List ℕ) : ℕ := Nat.ofDigits base digits.reverse

variable {base : ℕ}

@[simp] theorem value_nil : value base [] = 0 := rfl

theorem value_append (front back : List ℕ) :
    value base (front ++ back) = value base front * base ^ back.length + value base back := by
  rw [value, List.reverse_append, Nat.ofDigits_append, List.length_reverse, Nat.add_comm,
    Nat.mul_comm]
  rfl

theorem value_cons (digit : ℕ) (digits : List ℕ) :
    value base (digit :: digits) = digit * base ^ digits.length + value base digits := by
  rw [← List.singleton_append, value_append]
  simp [value]

theorem value_lt {digits : List ℕ} (small : ∀ digit ∈ digits, digit < base) :
    value base digits < base ^ digits.length := by
  induction digits with
  | nil => exact Nat.one_pos
  | cons digit digits ih =>
      have head := small digit (List.mem_cons_self ..)
      have tail := ih fun other inside => small other (List.mem_cons_of_mem _ inside)
      rw [value_cons, List.length_cons, pow_succ, Nat.mul_comm (base ^ _)]
      calc digit * base ^ digits.length + value base digits
          < digit * base ^ digits.length + base ^ digits.length := Nat.add_lt_add_left tail _
        _ = (digit + 1) * base ^ digits.length := (Nat.succ_mul _ _).symm
        _ ≤ base * base ^ digits.length := Nat.mul_le_mul_right _ head

/-- Leading zeros do not count. -/
theorem value_zeros (count : ℕ) (digits : List ℕ) :
    value base (List.replicate count 0 ++ digits) = value base digits := by
  rw [value, List.reverse_append, List.reverse_replicate, Nat.ofDigits_append_replicate_zero]
  rfl

/-- A number is at least the weight of its leading digit. -/
theorem pow_le_value {digit : ℕ} (leads : digit ≠ 0) (digits : List ℕ) :
    base ^ digits.length ≤ value base (digit :: digits) := by
  rw [value_cons]
  calc base ^ digits.length
      ≤ digit * base ^ digits.length :=
        Nat.le_mul_of_pos_left _ (Nat.pos_of_ne_zero leads)
    _ ≤ digit * base ^ digits.length + value base digits := Nat.le_add_right _ _

/-- The leading digit decides, and only then what follows. -/
theorem lead_le_iff {first second weight rest other : ℕ} (small : rest < weight)
    (small' : other < weight) :
    first * weight + rest ≤ second * weight + other ↔
      first < second ∨ first = second ∧ rest ≤ other := by
  rcases Nat.lt_trichotomy first second with less | same | more
  · have step := Nat.mul_le_mul_right weight (Nat.succ_le_of_lt less)
    rw [Nat.succ_mul] at step
    exact iff_of_true (by omega) (.inl less)
  · subst same
    simp
  · have step := Nat.mul_le_mul_right weight (Nat.succ_le_of_lt more)
    rw [Nat.succ_mul] at step
    exact iff_of_false (by omega) (by omega)

/-- A shorter list of digits precedes a longer one exactly when its number, moved to the
longer one's places, is at most the longer one's. -/
theorem lt_iff_of_length_lt {short long : List ℕ} (shorter : short.length < long.length)
    (small : ∀ digit ∈ short, digit < base) (small' : ∀ digit ∈ long, digit < base) :
    short < long ↔
      value base short * base ^ (long.length - short.length) ≤ value base long := by
  induction short generalizing long with
  | nil =>
      cases long with
      | nil => exact absurd shorter (Nat.lt_irrefl 0)
      | cons digit long => exact iff_of_true (List.nil_lt_cons digit long) (by simp)
  | cons first short ih =>
      cases long with
      | nil => exact absurd shorter (Nat.not_lt_zero _)
      | cons second long =>
          have head := small first (List.mem_cons_self ..)
          have rest : ∀ digit ∈ short, digit < base :=
            fun digit inside => small digit (List.mem_cons_of_mem _ inside)
          have rest' : ∀ digit ∈ long, digit < base :=
            fun digit inside => small' digit (List.mem_cons_of_mem _ inside)
          have shorter' : short.length < long.length := Nat.lt_of_succ_lt_succ shorter
          have gap : (second :: long).length - (first :: short).length =
              long.length - short.length := by
            rw [List.length_cons, List.length_cons, Nat.add_sub_add_right]
          have weight : base ^ short.length * base ^ (long.length - short.length) =
              base ^ long.length := by
            rw [← pow_add, Nat.add_sub_cancel' shorter'.le]
          have moved : value base short * base ^ (long.length - short.length) <
              base ^ long.length := by
            rw [← weight]
            exact Nat.mul_lt_mul_of_pos_right (value_lt rest)
              (Nat.pow_pos (Nat.zero_lt_of_lt head))
          rw [List.cons_lt_cons_iff, ih shorter' rest rest', gap, value_cons, value_cons,
            Nat.add_mul, Nat.mul_assoc, weight, lead_le_iff moved (value_lt rest')]

/-- Digit lists of one length are ordered as their numbers are. -/
theorem lt_iff_of_length_eq {left right : List ℕ} (same : left.length = right.length)
    (small : ∀ digit ∈ left, digit < base) (small' : ∀ digit ∈ right, digit < base) :
    left < right ↔ value base left < value base right := by
  induction left generalizing right with
  | nil =>
      rw [List.length_eq_zero_iff.mp same.symm]
      exact iff_of_false (List.lt_irrefl _) (Nat.lt_irrefl _)
  | cons first left ih =>
      cases right with
      | nil => exact absurd same (Nat.succ_ne_zero _)
      | cons second right =>
          have rest : ∀ digit ∈ left, digit < base :=
            fun digit inside => small digit (List.mem_cons_of_mem _ inside)
          have rest' : ∀ digit ∈ right, digit < base :=
            fun digit inside => small' digit (List.mem_cons_of_mem _ inside)
          have same' : left.length = right.length := Nat.succ_injective same
          have bound := value_lt rest
          rw [same'] at bound
          have lead : second * base ^ right.length + value base right ≤
                first * base ^ right.length + value base left ↔
              second < first ∨ second = first ∧ value base right ≤ value base left :=
            lead_le_iff (value_lt rest') bound
          rw [List.cons_lt_cons_iff, ih same' rest rest', value_cons, value_cons, same']
          omega

/-- A longer list of digits precedes a shorter one exactly when the shorter one does not
precede it. -/
theorem lt_iff_of_lt_length {short long : List ℕ} (shorter : short.length < long.length)
    (small : ∀ digit ∈ short, digit < base) (small' : ∀ digit ∈ long, digit < base) :
    long < short ↔
      value base long < value base short * base ^ (long.length - short.length) := by
  have distinct : long ≠ short := fun same => absurd (congrArg List.length same) shorter.ne'
  have order := lt_iff_of_length_lt shorter small small'
  rw [← Nat.not_le, ← order, not_lt]
  exact ⟨le_of_lt, fun atMost => lt_of_le_of_ne atMost distinct⟩

/-- Symbols in the order of their digits do not change the order of lists. -/
theorem map_lt_map_iff {α β : Type*} [LT α] [LT β] {image : α → β} {allowed : α → Prop}
    {left right : List α}
    (order : ∀ a b, allowed a → allowed b → (image a < image b ↔ a < b))
    (same : ∀ a b, allowed a → allowed b → (image a = image b ↔ a = b))
    (inside : ∀ a ∈ left, allowed a) (inside' : ∀ b ∈ right, allowed b) :
    left.map image < right.map image ↔ left < right := by
  induction left generalizing right with
  | nil =>
      cases right with
      | nil => exact iff_of_false (List.not_lt_nil _) (List.not_lt_nil _)
      | cons b right => exact iff_of_true (List.nil_lt_cons _ _) (List.nil_lt_cons _ _)
  | cons a left ih =>
      cases right with
      | nil => exact iff_of_false (List.not_lt_nil _) (List.not_lt_nil _)
      | cons b right =>
          have here := inside a (List.mem_cons_self ..)
          have here' := inside' b (List.mem_cons_self ..)
          have rest : left.map image < right.map image ↔ left < right :=
            ih (fun c member => inside c (List.mem_cons_of_mem _ member))
              (fun c member => inside' c (List.mem_cons_of_mem _ member))
          rw [List.map_cons, List.map_cons, List.cons_lt_cons_iff, List.cons_lt_cons_iff,
            order a b here here', same a b here here', rest]

/-! ## Leading symbols -/

section

variable {α : Type*} [DecidableEq α]

/-- A list is its leading copies of a symbol and a rest that does not begin with it. -/
theorem eq_replicate_append (symbol : α) (list : List α) :
    list = List.replicate (list.takeWhile (· == symbol)).length symbol ++
      list.dropWhile (· == symbol) := by
  induction list with
  | nil => rfl
  | cons head list ih =>
      by_cases same : head = symbol
      · subst same
        simpa [List.takeWhile_cons, List.dropWhile_cons, List.replicate_succ] using ih
      · simp [same]

theorem head?_dropWhile_ne (symbol : α) (list : List α) :
    ∀ head ∈ (list.dropWhile (· == symbol)).head?, head ≠ symbol := by
  induction list with
  | nil => exact nofun
  | cons first list ih =>
      by_cases same : first = symbol
      · subst same
        simpa [List.dropWhile_cons] using ih
      · intro head leads
        simp only [List.dropWhile_cons, same, beq_iff_eq, if_false, List.head?_cons,
          Option.mem_def, Option.some_inj] at leads
        rw [← leads]
        exact same

theorem length_takeWhile_replicate {symbol : α} {rest : List α} (count : ℕ)
    (other : ∀ head ∈ rest.head?, head ≠ symbol) :
    ((List.replicate count symbol ++ rest).takeWhile (· == symbol)).length = count := by
  induction count with
  | zero =>
      cases rest with
      | nil => rfl
      | cons head rest =>
          have differs : head ≠ symbol := other head rfl
          simp [differs]
  | succ count ih =>
      simp only [List.replicate_succ, List.cons_append, List.takeWhile_cons, beq_self_eq_true,
        if_true, List.length_cons, ih]

end

/-! ## Canonical digits -/

/-- The digits of a number do not begin with zero. -/
theorem head?_digits_ne (number : ℕ) :
    ∀ head ∈ (Nat.digits base number).reverse.head?, head ≠ 0 := by
  intro head leads
  rw [List.head?_reverse] at leads
  rcases Nat.eq_zero_or_pos number with zero | positive
  · subst zero
    rw [Nat.digits_zero] at leads
    exact absurd leads nofun
  · have last := Nat.getLast_digit_ne_zero base (Nat.pos_iff_ne_zero.mp positive)
    rw [List.getLast?_eq_some_getLast (Nat.digits_ne_nil_iff_ne_zero.mpr
      (Nat.pos_iff_ne_zero.mp positive))] at leads
    rw [← Option.some_inj.mp leads]
    exact last

theorem value_digits (number : ℕ) : value base (Nat.digits base number).reverse = number := by
  rw [value, List.reverse_reverse, Nat.ofDigits_digits]

/-- Digits that do not begin with zero are those of their number. -/
theorem digits_value {digits : List ℕ} (large : 1 < base)
    (small : ∀ digit ∈ digits, digit < base) (leads : ∀ head ∈ digits.head?, head ≠ 0) :
    (Nat.digits base (value base digits)).reverse = digits := by
  rw [value, Nat.digits_ofDigits base large, List.reverse_reverse]
  · intro digit inside
    exact small digit (List.mem_reverse.mp inside)
  · intro filled
    apply leads
    rw [Option.mem_def, List.getLast_reverse, List.head?_eq_some_head]

end Positional

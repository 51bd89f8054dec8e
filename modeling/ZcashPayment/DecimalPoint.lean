import Mathlib.Data.Rat.Defs
import Mathlib.Tactic.FieldSimp
import Mathlib.Tactic.Ring
import ZcashPayment.DecimalText

/-!
Decimal numerals with a point.

The digits before the point and those after it stand for the number of all of them, divided by
ten once for every digit after the point. Zeros may be added or taken away at both ends. The
values are rational, so what a conversion says of them is exact.
-/

namespace DecimalText

variable {l m whole fraction : List Char} {c : Char} {p q : Char → Bool} {k n : ℕ}

/-! ### The number of a list of digits -/

lemma value_append (l m : List Char) : value (l ++ m) = value l * 10 ^ m.length + value m := by
  unfold value
  rw [Nat.ofDigitChars_append, Nat.ofDigitChars_eq_ofDigitChars_zero, Nat.mul_comm]

lemma value_append_zeros (l : List Char) (k : ℕ) :
    value (l ++ List.replicate k '0') = value l * 10 ^ k := by
  have hzero : value (List.replicate k '0') = 0 := by
    have := value_zeros_append k []
    rwa [List.append_nil] at this
  rw [value_append, hzero, List.length_replicate, Nat.add_zero]

lemma value_cons (c : Char) (l : List Char) :
    value (c :: l) = value [c] * 10 ^ l.length + value l :=
  value_append [c] l

lemma value_singleton_lt (h : c.isDigit = true) : value [c] < 10 := by
  have hc : 48 ≤ c.toNat ∧ c.toNat ≤ 57 := by
    simp only [Char.isDigit, Bool.and_eq_true, decide_eq_true_eq] at h
    exact h
  simp only [value, Nat.ofDigitChars_cons, Nat.ofDigitChars_nil]
  have : '0'.toNat = 48 := rfl
  omega

lemma value_lt (h : AllDigits l) : value l < 10 ^ l.length := by
  induction l with
  | nil => decide
  | cons c l ih =>
    have hc := value_singleton_lt (h c List.mem_cons_self)
    have hl := ih fun d hd => h d (List.mem_cons_of_mem c hd)
    have hmul : value [c] * 10 ^ l.length ≤ 9 * 10 ^ l.length :=
      Nat.mul_le_mul_right _ (by omega)
    rw [value_cons, List.length_cons, Nat.pow_succ]
    omega

/-- Zeros in front may be taken away. -/
lemma value_dropZeros (l : List Char) : value (l.dropWhile (· = '0')) = value l := by
  have hzeros : l.takeWhile (· = '0') = List.replicate (l.takeWhile (· = '0')).length '0' :=
    List.eq_replicate_of_mem fun c hc => by simpa using List.mem_takeWhile_imp hc
  have hl := List.takeWhile_append_dropWhile (p := (· = '0')) (l := l)
  calc value (l.dropWhile (· = '0'))
      = value (List.replicate (l.takeWhile (· = '0')).length '0' ++ l.dropWhile (· = '0')) :=
        (value_zeros_append _ _).symm
    _ = value l := by rw [← hzeros, hl]

lemma AllDigits.of_append_left (h : AllDigits (l ++ m)) : AllDigits l :=
  fun c hc => h c (List.mem_append_left m hc)

lemma AllDigits.of_append_right (h : AllDigits (l ++ m)) : AllDigits m :=
  fun c hc => h c (List.mem_append_right l hc)

lemma AllDigits.notMem_point (h : AllDigits l) : '.' ∉ l := fun hp => by
  have := h _ hp
  revert this
  decide

/-! ### With a point -/

/-- The number a numeral with a point stands for. -/
def pointValue (whole fraction : List Char) : ℚ :=
  (value (whole ++ fraction) : ℚ) / 10 ^ fraction.length

@[simp] lemma pointValue_nil (whole : List Char) : pointValue whole [] = value whole := by
  simp [pointValue]

/-- Zeros may be added after the point. -/
lemma pointValue_append_zeros (whole fraction : List Char) (k : ℕ) :
    pointValue whole (fraction ++ List.replicate k '0') = pointValue whole fraction := by
  have hten : (10 : ℚ) ^ k ≠ 0 := pow_ne_zero k (by decide)
  unfold pointValue
  rw [← List.append_assoc, value_append_zeros, List.length_append, List.length_replicate, pow_add,
    Nat.cast_mul, Nat.cast_pow, Nat.cast_ofNat]
  field_simp

/-- Counted in units of `10 ^ n`, a numeral with `n` digits after the point is a whole number. -/
lemma pointValue_mul (h : fraction.length = n) :
    pointValue whole fraction * 10 ^ n = (value whole * 10 ^ n + value fraction : ℕ) := by
  have hten : (10 : ℚ) ^ n ≠ 0 := pow_ne_zero n (by decide)
  unfold pointValue
  rw [value_append, h, div_mul_cancel₀ _ hten]

lemma length_rightpad_eq (h : fraction.length ≤ n) :
    (fraction.rightpad n '0').length = n := by
  rw [List.rightpad, List.length_append, List.length_replicate]
  omega

/-- Filled up to `n` digits after the point. -/
lemma pointValue_mul_rightpad (h : fraction.length ≤ n) :
    pointValue whole fraction * 10 ^ n =
      (value whole * 10 ^ n + value (fraction.rightpad n '0') : ℕ) := by
  rw [← pointValue_mul (length_rightpad_eq h), List.rightpad, pointValue_append_zeros]

/-! ### Splitting at a character -/

/-- What stands before the first `c`, and what after it. -/
def splitOnce (c : Char) : List Char → Option (List Char × List Char)
  | [] => none
  | d :: l => if d = c then some ([], l) else (splitOnce c l).map fun r => (d :: r.1, r.2)

lemma splitOnce_append (h : c ∉ l) : splitOnce c (l ++ c :: m) = some (l, m) := by
  induction l with
  | nil => rw [List.nil_append, splitOnce, if_pos rfl]
  | cons d l ih =>
    obtain ⟨hd, hl⟩ := not_or.mp (List.mem_cons.not.mp h)
    rw [List.cons_append, splitOnce, if_neg fun heq => hd heq.symm, ih hl]
    rfl

lemma splitOnce_none (h : c ∉ l) : splitOnce c l = none := by
  induction l with
  | nil => rfl
  | cons d l ih =>
    obtain ⟨hd, hl⟩ := not_or.mp (List.mem_cons.not.mp h)
    rw [splitOnce, if_neg fun heq => hd heq.symm, ih hl]
    rfl

/-- Where a text was split. -/
lemma splitOnce_eq_some {r : List Char × List Char} (h : splitOnce c l = some r) :
    l = r.1 ++ c :: r.2 := by
  induction l generalizing r with
  | nil => cases h
  | cons d l ih =>
    rw [splitOnce] at h
    split_ifs at h with hd
    · cases h
      rw [hd]
      rfl
    · obtain ⟨r', hr', rfl⟩ := Option.map_eq_some_iff.mp h
      rw [ih hr']
      rfl

/-! ### Trimming -/

/-- Strip the characters of a kind at both ends. -/
def trimBy (p : Char → Bool) (l : List Char) : List Char := (l.dropWhile p).rdropWhile p

lemma trimBy_isBlank : trimBy isBlank l = trim l := rfl

lemma dropWhile_congr (h : ∀ c ∈ l, p c = q c) : l.dropWhile p = l.dropWhile q := by
  induction l with
  | nil => rfl
  | cons c l ih =>
    have ih := ih fun d hd => h d (List.mem_cons_of_mem c hd)
    rw [List.dropWhile_cons, List.dropWhile_cons, h c List.mem_cons_self, ih]

lemma trimBy_congr (h : ∀ c ∈ l, p c = q c) : trimBy p l = trimBy q l := by
  have hdrop : ∀ c ∈ l.dropWhile q, p c = q c := fun c hc =>
    h c ((List.dropWhile_suffix q).subset hc)
  have hrev : (l.dropWhile q).reverse.dropWhile p = (l.dropWhile q).reverse.dropWhile q :=
    dropWhile_congr fun c hc => hdrop c (List.mem_reverse.mp hc)
  rw [trimBy, trimBy, dropWhile_congr h, List.rdropWhile, List.rdropWhile, hrev]

lemma trimBy_eq_self (h : ∀ c ∈ l, p c = false) : trimBy p l = l := by
  have hd : l.dropWhile p = l := by
    cases l with
    | nil => rfl
    | cons c l => rw [List.dropWhile_cons_of_neg (by simp [h c (by simp)])]
  rw [trimBy, hd, List.rdropWhile_eq_self_iff]
  intro hl
  simp [h _ (List.getLast_mem hl)]

/-- A character that stays keeps the text from being stripped away. -/
lemma trimBy_ne_nil {c : Char} (hc : c ∈ l) (h : p c = false) : trimBy p l ≠ [] := by
  have hd : c ∈ l.dropWhile p := by
    rw [← List.takeWhile_append_dropWhile (p := p) (l := l)] at hc
    rcases List.mem_append.mp hc with ht | ht
    · exact absurd (List.mem_takeWhile_imp ht) (by simp [h])
    · exact ht
  intro hn
  have := List.rdropWhile_eq_nil_iff.mp hn c hd
  simp [h] at this

end DecimalText

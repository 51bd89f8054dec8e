import Mathlib.Algebra.Group.Nat.Defs
import Mathlib.Data.List.DropRight

/-!
Decimal numerals as lists of characters.

A numeral is a nonempty list of ASCII digits, and its value is `Nat.ofDigitChars 10`. Printing a
number and reading it back gives the number, whatever zeros are put in front of it. A blank is
what `trim` strips in JavaScript.
-/

namespace DecimalText

variable {l m : List Char} {n w : ℕ}

/-- The text of a number. -/
def digits (n : ℕ) : List Char := Nat.toDigits 10 n

def value (l : List Char) : ℕ := Nat.ofDigitChars 10 l 0

def AllDigits (l : List Char) : Prop := ∀ c ∈ l, c.isDigit = true

instance (l : List Char) : Decidable (AllDigits l) := List.decidableBAll _ l

@[simp] lemma toList_toString (n : ℕ) : (toString n).toList = digits n := by
  rw [Nat.toString_eq_repr, Nat.toList_repr, digits]

lemma digits_ne_nil (n : ℕ) : digits n ≠ [] := Nat.toDigits_ne_nil

lemma allDigits_digits (n : ℕ) : AllDigits (digits n) := fun _ h =>
  Nat.isDigit_of_mem_toDigits (by omega) le_rfl h

@[simp] lemma value_digits (n : ℕ) : value (digits n) = n := Nat.ofDigitChars_ten_toDigits

lemma length_digits_le (hw : 0 < w) (h : n < 10 ^ w) : (digits n).length ≤ w :=
  (Nat.length_toDigits_le_iff (by omega) hw).mpr h

/-- Zeros in front change nothing. -/
lemma value_zeros_append (k : ℕ) (l : List Char) :
    value (List.replicate k '0' ++ l) = value l := by
  unfold value
  rw [Nat.ofDigitChars_append, Nat.ofDigitChars_replicate_zero, Nat.mul_zero]

lemma AllDigits.append (hl : AllDigits l) (hm : AllDigits m) : AllDigits (l ++ m) := by
  intro c hc
  rcases List.mem_append.mp hc with h | h
  · exact hl c h
  · exact hm c h

lemma allDigits_zeros (k : ℕ) : AllDigits (List.replicate k '0') := by
  intro c hc
  rw [List.eq_of_mem_replicate hc]
  rfl

/-! ### Reading a numeral off a text -/

lemma takeWhile_digits_append {c : Char} (hl : AllDigits l) (hc : c.isDigit = false) :
    (l ++ c :: m).takeWhile Char.isDigit = l := by
  rw [List.takeWhile_append_of_pos hl, List.takeWhile_cons_of_neg (by simp [hc]), List.append_nil]

lemma dropWhile_digits_append {c : Char} (hl : AllDigits l) (hc : c.isDigit = false) :
    (l ++ c :: m).dropWhile Char.isDigit = c :: m := by
  rw [List.dropWhile_append_of_pos hl, List.dropWhile_cons_of_neg (by simp [hc])]

/-- The digits at the end. -/
lemma rtakeWhile_digits_append {c : Char} (hl : AllDigits l) (hc : c.isDigit = false) :
    (m ++ c :: l).rtakeWhile Char.isDigit = l := by
  have hr : AllDigits l.reverse := fun d hd => hl d (List.mem_reverse.mp hd)
  unfold List.rtakeWhile
  rw [List.reverse_append, List.reverse_cons, List.append_assoc, List.singleton_append,
    takeWhile_digits_append hr hc, List.reverse_reverse]

lemma rdropWhile_digits_append {c : Char} (hl : AllDigits l) (hc : c.isDigit = false) :
    (m ++ c :: l).rdropWhile Char.isDigit = m ++ [c] := by
  have hr : AllDigits l.reverse := fun d hd => hl d (List.mem_reverse.mp hd)
  unfold List.rdropWhile
  rw [List.reverse_append, List.reverse_cons, List.append_assoc, List.singleton_append,
    dropWhile_digits_append hr hc, List.reverse_cons, List.reverse_reverse]

/-! ### Blanks -/

/-- White space and line terminators. -/
def isBlank (c : Char) : Bool :=
  let n := c.toNat
  decide (0x09 ≤ n ∧ n ≤ 0x0d ∨ n = 0x20 ∨ n = 0xa0 ∨ n = 0x1680 ∨ 0x2000 ≤ n ∧ n ≤ 0x200a ∨
    n = 0x2028 ∨ n = 0x2029 ∨ n = 0x202f ∨ n = 0x205f ∨ n = 0x3000 ∨ n = 0xfeff)

def trim (l : List Char) : List Char := (l.dropWhile isBlank).rdropWhile isBlank

lemma trim_eq_self (h : ∀ c ∈ l, isBlank c = false) : trim l = l := by
  have hd : l.dropWhile isBlank = l := by
    cases l with
    | nil => rfl
    | cons c l => rw [List.dropWhile_cons_of_neg (by simp [h c (by simp)])]
  rw [trim, hd, List.rdropWhile_eq_self_iff]
  intro hl
  simp [h _ (List.getLast_mem hl)]

/-- A character that stays keeps the text from being blank. -/
lemma trim_ne_nil {c : Char} (hc : c ∈ l) (h : isBlank c = false) : trim l ≠ [] := by
  have hd : c ∈ l.dropWhile isBlank := by
    have := (List.takeWhile_append_dropWhile (p := isBlank) (l := l)) ▸ hc
    rcases List.mem_append.mp this with ht | ht
    · exact absurd (List.mem_takeWhile_imp ht) (by simp [h])
    · exact ht
  intro hn
  have := List.rdropWhile_eq_nil_iff.mp hn c hd
  simp [h] at this

lemma isBlank_of_isDigit {c : Char} (h : c.isDigit = true) : isBlank c = false := by
  have : 48 ≤ c.toNat ∧ c.toNat ≤ 57 := by
    simp only [Char.isDigit, Bool.and_eq_true, decide_eq_true_eq] at h
    exact h
  simp only [isBlank, decide_eq_false_iff_not]
  omega

end DecimalText

import Mathlib.Data.Char
import Mathlib.Data.List.DropRight
import Mathlib.Data.Nat.Digits.Defs
import Mathlib.Tactic.Common

/-!
Text order and number order.

Texts are compared character by character. Numbers that are written with a fixed number of
digits compare as their texts do, field after field; two texts of which neither starts with
the other compare at the first character in which they differ.
-/

namespace FixedWidth

/-! ### Lists of characters -/

variable {l m u v : List Char} {c d : Char}

lemma lt_asymm (h : l < m) : ¬m < l := List.lt_asymm h

/-- Behind heads of equal length, the tails decide where the heads agree. -/
lemma append_lt_append (h : l.length = m.length) :
    l ++ u < m ++ v ↔ l < m ∨ l = m ∧ u < v := by
  induction l generalizing m with
  | nil =>
    rw [List.length_nil, eq_comm, List.length_eq_zero_iff] at h
    subst h
    simp
  | cons a l ih =>
    rcases m with _ | ⟨b, m⟩
    · cases h
    · simp only [List.cons_append, List.cons_lt_cons_iff, ih (Nat.succ.inj h), List.cons.injEq]
      tauto

lemma append_left_lt_append_left : l ++ u < l ++ v ↔ u < v := by
  rw [append_lt_append rfl]
  simp

lemma cons_lt_cons_of_ne (h : c ≠ d) : c :: u < d :: v ↔ c < d := by
  rw [List.cons_lt_cons_iff]
  tauto

/-- Two texts of which neither starts with the other part at some character. -/
lemma exists_parting (hl : ¬l <+: m) (hm : ¬m <+: l) :
    ∃ p c u d v, c ≠ d ∧ l = p ++ c :: u ∧ m = p ++ d :: v := by
  induction l generalizing m with
  | nil => exact absurd (List.nil_prefix) hl
  | cons a l ih =>
    rcases m with _ | ⟨b, m⟩
    · exact absurd List.nil_prefix hm
    · by_cases hab : a = b
      · subst hab
        rw [List.prefix_cons_inj] at hl hm
        obtain ⟨p, c, u, d, v, hne, rfl, rfl⟩ := ih hl hm
        exact ⟨a :: p, c, u, d, v, hne, rfl, rfl⟩
      · exact ⟨[], a, l, b, m, hab, rfl, rfl⟩

/-! ### Numbers of two parts -/

section radix

variable {n x y r s : ℕ}

lemma radix_lt_iff (hr : r < n) (hs : s < n) :
    x * n + r < y * n + s ↔ x < y ∨ x = y ∧ r < s := by
  rcases Nat.lt_trichotomy x y with hxy | rfl | hxy
  · have := Nat.mul_le_mul_right n hxy
    rw [Nat.succ_mul] at this
    constructor <;> intros <;> omega
  · constructor <;> intros <;> omega
  · have := Nat.mul_le_mul_right n hxy
    rw [Nat.succ_mul] at this
    constructor <;> intros <;> omega

lemma radix_eq_iff (hr : r < n) (hs : s < n) : x * n + r = y * n + s ↔ x = y ∧ r = s := by
  have h := radix_lt_iff (x := x) (y := y) hr hs
  have h' := radix_lt_iff (x := y) (y := x) hs hr
  omega

/-- What comes before the unit `n`, of units of different lengths. -/
def accumulate (len : ℕ → ℕ) : ℕ → ℕ
  | 0 => 0
  | n + 1 => accumulate len n + len n

lemma accumulate_add_le (len : ℕ → ℕ) (h : x < y) :
    accumulate len x + len x ≤ accumulate len y := by
  induction y with
  | zero => omega
  | succ y ih =>
    rcases Nat.lt_succ_iff_lt_or_eq.mp h with h | rfl
    · exact (ih h).trans (Nat.le_add_right _ _)
    · exact le_rfl

lemma accumulate_lt_iff {len : ℕ → ℕ} (hr : r < len x) (hs : s < len y) :
    accumulate len x + r < accumulate len y + s ↔ x < y ∨ x = y ∧ r < s := by
  rcases Nat.lt_trichotomy x y with hxy | rfl | hxy
  · have := accumulate_add_le len hxy
    constructor <;> intros <;> omega
  · constructor <;> intros <;> omega
  · have := accumulate_add_le len hxy
    constructor <;> intros <;> omega

/-- The unit that `d` falls into, from the unit `x` on, and what is left of `d` there. -/
def locate (len : ℕ → ℕ) : ℕ → ℕ → ℕ → ℕ × ℕ
  | 0, x, d => (x, d)
  | fuel + 1, x, d => if d < len x then (x, d) else locate len fuel (x + 1) (d - len x)

lemma locate_spec {len : ℕ → ℕ} {fuel d : ℕ}
    (h : accumulate len x + d < accumulate len (x + fuel)) :
    let p := locate len fuel x d
    accumulate len p.1 + p.2 = accumulate len x + d ∧ p.2 < len p.1 ∧ p.1 < x + fuel := by
  induction fuel generalizing x d with
  | zero =>
    rw [Nat.add_zero] at h
    omega
  | succ fuel ih =>
    rw [locate]
    split_ifs with hd
    · exact ⟨rfl, hd, by omega⟩
    · have hsum : accumulate len (x + 1) + (d - len x) = accumulate len x + d := by
        rw [accumulate]
        omega
      have h' : accumulate len (x + 1) + (d - len x) < accumulate len (x + 1 + fuel) := by
        rw [hsum, Nat.add_right_comm]
        exact h
      obtain ⟨h1, h2, h3⟩ := ih h'
      exact ⟨h1.trans hsum, h2, by omega⟩

lemma locate_zero_spec (len : ℕ → ℕ) {fuel d : ℕ} (h : d < accumulate len fuel) :
    let p := locate len fuel 0 d
    accumulate len p.1 + p.2 = d ∧ p.2 < len p.1 ∧ p.1 < fuel := by
  have hspec := locate_spec (show accumulate len 0 + d < accumulate len (0 + fuel) by
    rwa [accumulate, Nat.zero_add, Nat.zero_add])
  rwa [accumulate, Nat.zero_add, Nat.zero_add] at hspec

end radix

/-! ### Fixed-width numbers -/

/-- The last `w` decimal digits of `n`. -/
def digitChars : ℕ → ℕ → List Char
  | 0, _ => []
  | w + 1, n => Nat.digitChar (n / 10 ^ w % 10) :: digitChars w n

@[simp] lemma length_digitChars (w n : ℕ) : (digitChars w n).length = w := by
  induction w with
  | zero => rfl
  | succ w ih => rw [digitChars, List.length_cons, ih]

lemma digitChar_lt_iff : ∀ a < 10, ∀ b < 10,
    (Nat.digitChar a < Nat.digitChar b ↔ a < b) ∧ (Nat.digitChar a = Nat.digitChar b ↔ a = b) := by
  decide

/-- A digit is between `0` and `9`. -/
lemma digitChar_bounds : ∀ a < 10, '0' ≤ Nat.digitChar a ∧ Nat.digitChar a ≤ '9' := by decide

lemma bounds_of_mem_digitChars {w n : ℕ} (h : c ∈ digitChars w n) : '0' ≤ c ∧ c ≤ '9' := by
  induction w with
  | zero => cases h
  | succ w ih =>
    rcases List.mem_cons.mp h with rfl | h
    · exact digitChar_bounds _ (Nat.mod_lt _ (by omega))
    · exact ih h

/-- **Fixed-width order.** -/
lemma digitChars_order (w a b : ℕ) :
    (digitChars w a < digitChars w b ↔ a % 10 ^ w < b % 10 ^ w) ∧
      (digitChars w a = digitChars w b ↔ a % 10 ^ w = b % 10 ^ w) := by
  induction w with
  | zero => simp [digitChars, Nat.mod_one]
  | succ w ih =>
    have hmod : ∀ n, n % 10 ^ (w + 1) = n / 10 ^ w % 10 * 10 ^ w + n % 10 ^ w := fun n => by
      rw [Nat.mod_pow_succ, Nat.mul_comm, Nat.add_comm]
    have hra := Nat.mod_lt a (pow_pos (by omega : 0 < 10) w)
    have hrb := Nat.mod_lt b (pow_pos (by omega : 0 < 10) w)
    obtain ⟨hlt, heq⟩ := digitChar_lt_iff (a / 10 ^ w % 10) (Nat.mod_lt _ (by omega))
      (b / 10 ^ w % 10) (Nat.mod_lt _ (by omega))
    simp only [digitChars, List.cons_lt_cons_iff, List.cons.injEq, hlt, heq, ih.1, ih.2, hmod,
      radix_lt_iff hra hrb, radix_eq_iff hra hrb, and_self]

/-- A field of a text: its numbers decide, or what comes after them. -/
lemma field_lt_iff {w a b : ℕ} (ha : a < 10 ^ w) (hb : b < 10 ^ w) :
    digitChars w a ++ u < digitChars w b ++ v ↔ a < b ∨ a = b ∧ u < v := by
  rw [append_lt_append (by simp), (digitChars_order w a b).1, (digitChars_order w a b).2,
    Nat.mod_eq_of_lt ha, Nat.mod_eq_of_lt hb]

lemma cons_lt_cons_self : c :: u < c :: v ↔ u < v := by
  rw [List.cons_lt_cons_iff]
  simp

/-! ### Trailing zeros -/

/-- The digits of a fraction without its trailing zeros. -/
def stripZeros (l : List Char) : List Char := l.rdropWhile (· = '0')

lemma stripZeros_append (l : List Char) :
    ∃ zeros, l = stripZeros l ++ zeros ∧ ∀ c ∈ zeros, c = '0' :=
  ⟨l.rtakeWhile (· = '0'), List.rdropWhile_append_rtakeWhile.symm, fun c hc => by
    simpa using List.mem_rtakeWhile_imp hc⟩

lemma stripZeros_getLast (h : stripZeros l ≠ []) : (stripZeros l).getLast h ≠ '0' := by
  simpa [stripZeros] using List.rdropWhile_last_not (p := (· = '0')) l h

lemma mem_of_mem_stripZeros (h : c ∈ stripZeros l) : c ∈ l :=
  (List.rdropWhile_prefix _ l).subset h

/-- Zeros are before every other list of as many digits. -/
lemma zeros_lt (hl : ∀ c ∈ l, c = '0') (hm : ∀ c ∈ m, '0' ≤ c) (hne : ∃ c ∈ m, c ≠ '0')
    (h : l.length = m.length) : l < m := by
  induction m generalizing l with
  | nil =>
    obtain ⟨c, hc, -⟩ := hne
    cases hc
  | cons b m ih =>
    rcases l with _ | ⟨a, l⟩
    · cases h
    · obtain rfl : a = '0' := hl a List.mem_cons_self
      rw [List.cons_lt_cons_iff]
      by_cases hb : b = '0'
      · subst hb
        refine Or.inr ⟨rfl, ih (fun c hc => hl c (List.mem_cons_of_mem _ hc))
          (fun c hc => hm c (List.mem_cons_of_mem _ hc)) ?_ (Nat.succ.inj h)⟩
        obtain ⟨c, hc, hc0⟩ := hne
        rcases List.mem_cons.mp hc with rfl | hc
        · exact absurd rfl hc0
        · exact ⟨c, hc, hc0⟩
      · exact Or.inl (lt_of_le_of_ne (hm b List.mem_cons_self) (Ne.symm hb))

/-- A fraction that another one continues is the smaller of the two. -/
lemma lt_of_stripZeros_prefix (hm : ∀ c ∈ m, '0' ≤ c) (h : l.length = m.length)
    (hp : stripZeros l <+: stripZeros m) (hne : stripZeros l ≠ stripZeros m) : l < m := by
  obtain ⟨x, hx⟩ := hp
  obtain ⟨zl, hl, hzl⟩ := stripZeros_append l
  obtain ⟨zm, hm', -⟩ := stripZeros_append m
  have hxne : x ≠ [] := by
    rintro rfl
    exact hne (by simpa using hx)
  have hmx : m = stripZeros l ++ (x ++ zm) := by rw [← List.append_assoc, hx, ← hm']
  have hlen : zl.length = (x ++ zm).length := by
    have h1 := congrArg List.length hl
    have h2 := congrArg List.length hmx
    rw [List.length_append] at h1 h2
    omega
  have hlast : x.getLast hxne ≠ '0' := by
    have hne' : stripZeros m ≠ [] := by
      rw [← hx]
      exact List.append_ne_nil_of_right_ne_nil _ hxne
    have h := stripZeros_getLast hne'
    simp only [← hx] at h
    rwa [List.getLast_append_of_ne_nil _ hxne] at h
  rw [hl, hmx, append_left_lt_append_left]
  refine zeros_lt hzl (fun c hc => hm c ?_)
    ⟨_, List.mem_append_left _ (List.getLast_mem hxne), hlast⟩ hlen
  rw [hmx]
  exact List.mem_append_right _ hc

/-- Fractions that are written alike are equal. -/
lemma eq_of_stripZeros_eq (h : l.length = m.length) (hs : stripZeros l = stripZeros m) :
    l = m := by
  obtain ⟨zl, hl, hzl⟩ := stripZeros_append l
  obtain ⟨zm, hm, hzm⟩ := stripZeros_append m
  have hlen : zl.length = zm.length := by
    have h1 := congrArg List.length hl
    have h2 := congrArg List.length hm
    rw [List.length_append] at h1 h2
    rw [hs] at h1
    omega
  have hz : zl = zm := by
    rw [List.eq_replicate_of_mem hzl, List.eq_replicate_of_mem hzm, hlen]
  rw [hl, hm, hs, hz]

/-! ### A text with an optional fraction -/

/-- The end of a text: a point and the fraction, unless it is zero, and a last character. -/
def fractionText (l : List Char) : List Char :=
  match stripZeros l with
  | [] => ['Z']
  | c :: rest => '.' :: c :: rest ++ ['Z']

/-- One fraction is written as the beginning of the other. -/
def Clash (l m : List Char) : Prop :=
  stripZeros l ≠ stripZeros m ∧ (stripZeros l <+: stripZeros m ∨ stripZeros m <+: stripZeros l)

instance (l m : List Char) : Decidable (Clash l m) := inferInstanceAs (Decidable (_ ∧ _))

lemma Clash.symm (h : Clash l m) : Clash m l := ⟨h.1.symm, h.2.symm⟩

lemma fractionText_of_ne (h : stripZeros l ≠ []) :
    fractionText l = '.' :: stripZeros l ++ ['Z'] := by
  unfold fractionText
  split <;> simp_all

/-- A fraction that another one continues is the later text: `Z` is after every digit. -/
lemma fractionText_lt_of_prefix (hm : ∀ c ∈ m, c ≤ '9')
    (hp : stripZeros l <+: stripZeros m) (hne : stripZeros l ≠ stripZeros m) :
    fractionText m < fractionText l := by
  obtain ⟨x, hx⟩ := hp
  rcases x with _ | ⟨c, x⟩
  · exact absurd (by simpa using hx) hne
  have hm' : stripZeros m ≠ [] := by
    rw [← hx]
    exact List.append_ne_nil_of_right_ne_nil _ (List.cons_ne_nil c x)
  have hc : c < 'Z' := by
    have hmem : c ∈ m := mem_of_mem_stripZeros (by rw [← hx]; simp)
    have h9 : '9' < 'Z' := by decide
    exact lt_of_le_of_lt (hm c hmem) h9
  rw [fractionText_of_ne hm']
  by_cases hl : stripZeros l = []
  · rw [fractionText, hl]
    exact List.cons_lt_cons_iff.mpr (Or.inl (by decide))
  · rw [fractionText_of_ne hl, List.cons_append, List.cons_append, cons_lt_cons_self, ← hx,
      List.append_assoc, append_left_lt_append_left]
    exact List.cons_lt_cons_iff.mpr (Or.inl hc)

/-- **Fractions as text**: in the order of the numbers, but for two that clash. -/
lemma fractionText_lt_iff (hl : ∀ c ∈ l, '0' ≤ c ∧ c ≤ '9') (hm : ∀ c ∈ m, '0' ≤ c ∧ c ≤ '9')
    (h : l.length = m.length) :
    fractionText l < fractionText m ↔ if Clash l m then m < l else l < m := by
  by_cases heq : stripZeros l = stripZeros m
  · obtain rfl := eq_of_stripZeros_eq h heq
    rw [if_neg fun hc => hc.1 rfl]
    exact ⟨fun h => absurd h (List.lt_irrefl _), fun h => absurd h (List.lt_irrefl _)⟩
  by_cases hlm : stripZeros l <+: stripZeros m
  · have htext := fractionText_lt_of_prefix (fun c hc => (hm c hc).2) hlm heq
    have hnum := lt_of_stripZeros_prefix (fun c hc => (hm c hc).1) h hlm heq
    rw [if_pos ⟨heq, Or.inl hlm⟩]
    exact ⟨fun h => absurd htext (lt_asymm h), fun h => absurd hnum (lt_asymm h)⟩
  by_cases hml : stripZeros m <+: stripZeros l
  · have htext := fractionText_lt_of_prefix (fun c hc => (hl c hc).2) hml (Ne.symm heq)
    have hnum := lt_of_stripZeros_prefix (fun c hc => (hl c hc).1) h.symm hml (Ne.symm heq)
    rw [if_pos ⟨heq, Or.inr hml⟩]
    exact ⟨fun _ => hnum, fun _ => htext⟩
  -- They part at a digit, which decides both orders.
  have hlne : stripZeros l ≠ [] := fun h0 => hlm (h0 ▸ List.nil_prefix)
  have hmne : stripZeros m ≠ [] := fun h0 => hml (h0 ▸ List.nil_prefix)
  obtain ⟨zl, hzl, -⟩ := stripZeros_append l
  obtain ⟨zm, hzm, -⟩ := stripZeros_append m
  rw [if_neg fun hc => hc.2.elim hlm hml, fractionText_of_ne hlne, fractionText_of_ne hmne,
    List.cons_append, List.cons_append, cons_lt_cons_self]
  obtain ⟨p, c, u, d, v, hcd, hcu, hdv⟩ := exists_parting hlm hml
  rw [hcu] at hzl ⊢
  rw [hdv] at hzm ⊢
  rw [hzl, hzm]
  simp only [List.append_assoc, append_left_lt_append_left, List.cons_append,
    cons_lt_cons_of_ne hcd]

end FixedWidth

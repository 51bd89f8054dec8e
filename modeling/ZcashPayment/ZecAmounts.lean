import Mathlib.Tactic.NormNum
import ZcashPayment.DecimalPoint
import ZcashPayment.Scan
import ZcashPayment.WebhookBodies

/-!
Amounts in ZEC, read and written.

`parse_zec_amount` splits a trimmed text at its first point, checks the digits on both sides and
computes in checked `i64` arithmetic. What it accepts are the decimal numerals with at most eight
digits after the point whose zatoshis fit an `i64`; the plugins' `zecToZat` accepts fewer of them.
-/

namespace ZcashPayment

open DecimalText

/-! ### parse_zec_amount -/

/-- `char::is_whitespace` -/
def isWhitespace (c : Char) : Bool :=
  let n := c.toNat
  decide (0x09 ≤ n ∧ n ≤ 0x0d ∨ n = 0x20 ∨ n = 0x85 ∨ n = 0xa0 ∨ n = 0x1680 ∨
    0x2000 ≤ n ∧ n ≤ 0x200a ∨ n = 0x2028 ∨ n = 0x2029 ∨ n = 0x202f ∨ n = 0x205f ∨ n = 0x3000)

/-- `str::trim` -/
def trimSpace (s : String) : List Char := trimBy isWhitespace s.toList

/-- `str::len`, in bytes. -/
def byteLen (l : List Char) : ℕ := (l.map Char.utf8Size).sum

/-- A number below `2 ^ 63`, or the overflow of an `i64`. -/
def checkedI64 (n : ℕ) : Option ℕ := if n ≤ i64Max then some n else none

/-- `str::parse::<i64>` of digits. -/
def parseI64 (l : List Char) : Option ℕ := checkedI64 (value l)

/-- `split_once('.')`, or everything before a point that is not there. -/
def splitPoint (l : List Char) : List Char × List Char := (splitOnce '.' l).getD (l, [])

/-- An empty part is zero, and any other is the number of its digits. -/
def parsePart (part digits : List Char) : Option ℕ :=
  if part = [] then some 0 else parseI64 digits

def parseZecAmount (text : String) : Option ℕ :=
  let (whole, fraction) := splitPoint (trimSpace text)
  if whole = [] ∧ fraction = [] then none
  else if byteLen fraction > 8 ∨ ¬AllDigits whole ∨ ¬AllDigits fraction then none
  else do
    let whole ← parsePart whole whole
    let fraction ← parsePart fraction (fraction.rightpad 8 '0')
    checkedI64 ((← checkedI64 (whole * 100000000)) + fraction)

/-! ### What is accepted -/

/-- Digits, and after a point at most eight more; a digit somewhere. -/
structure ZecNumeral (l whole fraction : List Char) : Prop where
  text : l = whole ∧ fraction = [] ∨ l = whole ++ '.' :: fraction
  whole_digits : AllDigits whole
  fraction_digits : AllDigits fraction
  short : fraction.length ≤ 8
  some_digit : whole ++ fraction ≠ []

variable {l whole fraction : List Char} {s : String} {z : ℕ}

lemma checkedI64_eq_some {n m : ℕ} : checkedI64 n = some m ↔ n = m ∧ n ≤ i64Max := by
  unfold checkedI64
  split_ifs with h
  · simp [h]
  · simp [h]

lemma byteLen_eq (h : AllDigits l) : byteLen l = l.length := by
  induction l with
  | nil => rfl
  | cons c l ih =>
    have hc : c.utf8Size = 1 := by
      have hlt : c.toNat < 128 := ascii_of_allDigits h c List.mem_cons_self
      exact Char.utf8Size_eq_one_iff.mpr (by
        rw [UInt32.le_iff_toNat_le]
        exact Nat.le_of_lt_succ hlt)
    have ih := ih fun d hd => h d (List.mem_cons_of_mem c hd)
    simp only [byteLen, List.map_cons, List.sum_cons, List.length_cons] at ih ⊢
    rw [hc, ih, Nat.add_comm]

/-- A text and its parts. -/
lemma splitPoint_text (l : List Char) :
    l = (splitPoint l).1 ∧ (splitPoint l).2 = [] ∨
      l = (splitPoint l).1 ++ '.' :: (splitPoint l).2 := by
  unfold splitPoint
  rcases h : splitOnce '.' l with _ | r
  · exact Or.inl ⟨rfl, rfl⟩
  · exact Or.inr (splitOnce_eq_some h)

lemma ZecNumeral.split (h : ZecNumeral l whole fraction) : splitPoint l = (whole, fraction) := by
  have hpoint := h.whole_digits.notMem_point
  unfold splitPoint
  rcases h.text with ⟨rfl, rfl⟩ | rfl
  · rw [splitOnce_none hpoint]
    rfl
  · rw [splitOnce_append hpoint]
    rfl

/-- The checks of the parser are those of a numeral. -/
lemma zecNumeral_split :
    ZecNumeral l (splitPoint l).1 (splitPoint l).2 ↔
      ¬((splitPoint l).1 = [] ∧ (splitPoint l).2 = []) ∧
        ¬(byteLen (splitPoint l).2 > 8 ∨ ¬AllDigits (splitPoint l).1 ∨
          ¬AllDigits (splitPoint l).2) := by
  constructor
  · intro h
    refine ⟨fun hnil => h.some_digit (by rw [hnil.1, hnil.2]; rfl), ?_⟩
    have hlen := byteLen_eq h.fraction_digits
    have hshort := h.short
    rintro (hlong | hw | hf)
    · omega
    · exact hw h.whole_digits
    · exact hf h.fraction_digits
  · rintro ⟨hne, hok⟩
    push Not at hok
    obtain ⟨hlen, hw, hf⟩ := hok
    refine ⟨splitPoint_text l, hw, hf, byteLen_eq hf ▸ hlen, fun hnil => hne ?_⟩
    exact List.append_eq_nil_iff.mp hnil

/-- The number of zatoshis of the parts. -/
def zatOf (whole fraction : List Char) : ℕ :=
  value whole * 10 ^ 8 + value (fraction.rightpad 8 '0')

lemma zatOf_eq (h : ZecNumeral l whole fraction) :
    (zatOf whole fraction : ℚ) = pointValue whole fraction * 10 ^ 8 :=
  (pointValue_mul_rightpad h.short).symm

/-- The checked arithmetic gives the zatoshis where they fit an `i64`. -/
lemma parseParts :
    (do let w ← parsePart whole whole
        let f ← parsePart fraction (fraction.rightpad 8 '0')
        checkedI64 ((← checkedI64 (w * 100000000)) + f)) = some z ↔
      z = zatOf whole fraction ∧ z ≤ i64Max := by
  have hpart : ∀ {part digits : List Char}, (part = [] → value digits = 0) →
      parsePart part digits = checkedI64 (value digits) := by
    intro part digits hzero
    unfold parsePart
    split_ifs with hnil
    · rw [hzero hnil]
      rfl
    · rfl
  rw [hpart fun h => by rw [h]; rfl, hpart fun h => by rw [h]; rfl]
  simp only [Option.bind_eq_bind, Option.bind_eq_some_iff, checkedI64_eq_some, zatOf]
  constructor
  · rintro ⟨w, ⟨rfl, -⟩, f, ⟨rfl, -⟩, p, ⟨rfl, -⟩, rfl, hle⟩
    exact ⟨rfl, hle⟩
  · rintro ⟨hz, hle⟩
    generalize i64Max = limit at hle ⊢
    refine ⟨_, ⟨rfl, ?_⟩, _, ⟨rfl, ?_⟩, _, ⟨rfl, ?_⟩, hz.symm, hz ▸ hle⟩
    all_goals omega

/-- **What `parse_zec_amount` accepts**, and the exact number it returns. -/
lemma parseZecAmount_eq_some :
    parseZecAmount s = some z ↔ ∃ whole fraction, ZecNumeral (trimSpace s) whole fraction ∧
      (z : ℚ) = pointValue whole fraction * 10 ^ 8 ∧ z ≤ i64Max := by
  have hexact : ∀ {whole fraction}, ZecNumeral (trimSpace s) whole fraction →
      ((z : ℚ) = pointValue whole fraction * 10 ^ 8 ↔ z = zatOf whole fraction) :=
    fun h => by rw [← zatOf_eq h, Nat.cast_inj]
  unfold parseZecAmount
  generalize trimSpace s = l at *
  simp only
  constructor
  · intro h
    split_ifs at h with hnil hbad
    have hnum : ZecNumeral l (splitPoint l).1 (splitPoint l).2 := zecNumeral_split.mpr ⟨hnil, hbad⟩
    obtain ⟨hz, hle⟩ := parseParts.mp h
    exact ⟨_, _, hnum, (hexact hnum).mpr hz, hle⟩
  · rintro ⟨whole, fraction, hnum, hz, hle⟩
    have hsplit := hnum.split
    have hnum' : ZecNumeral l (splitPoint l).1 (splitPoint l).2 := by rwa [hsplit]
    obtain ⟨hnil, hbad⟩ := zecNumeral_split.mp hnum'
    rw [if_neg hnil, if_neg hbad, hsplit]
    exact parseParts.mpr ⟨(hexact hnum).mp hz, hle⟩

/-! ### Formatting and parsing -/

lemma isWhitespace_of_isDigit {c : Char} (h : c.isDigit = true) : isWhitespace c = false := by
  have : 48 ≤ c.toNat ∧ c.toNat ≤ 57 := by
    simp only [Char.isDigit, Bool.and_eq_true, decide_eq_true_eq] at h
    exact h
  simp only [isWhitespace, decide_eq_false_iff_not]
  omega

/-- Nothing is trimmed off digits with a point. -/
lemma trim_digits_point (p : Char → Bool) (hp : ∀ c : Char, c.isDigit = true → p c = false)
    (hpoint : p '.' = false) (hw : AllDigits whole) (hf : AllDigits fraction) :
    trimBy p (whole ++ '.' :: fraction) = whole ++ '.' :: fraction := by
  refine trimBy_eq_self fun c hc => ?_
  rcases List.mem_append.mp hc with h | h
  · exact hp c (hw c h)
  · rcases List.mem_cons.mp h with rfl | h
    · exact hpoint
    · exact hp c (hf c h)

lemma zecNumeral_format (z : ℕ) :
    ZecNumeral (trimSpace (formatZatAsZec z)) (digits (z / 100000000)) (fractionDigits z) where
  text := by
    rw [trimSpace, toList_formatZatAsZec]
    exact Or.inr (trim_digits_point _ (fun _ => isWhitespace_of_isDigit) rfl (allDigits_digits _)
      (allDigits_fractionDigits z))
  whole_digits := allDigits_digits _
  fraction_digits := allDigits_fractionDigits z
  short := (length_fractionDigits z).le
  some_digit h := digits_ne_nil _ (List.append_eq_nil_iff.mp h).1

lemma pointValue_format (z : ℕ) :
    (z : ℚ) = pointValue (digits (z / 100000000)) (fractionDigits z) * 10 ^ 8 := by
  rw [pointValue_mul (length_fractionDigits z), value_digits, value_fractionDigits, Nat.cast_inj]
  omega

/-- **What the service formats it reads back.** -/
lemma parseZecAmount_format (h : z ≤ i64Max) : parseZecAmount (formatZatAsZec z) = some z :=
  parseZecAmount_eq_some.mpr ⟨_, _, zecNumeral_format z, pointValue_format z, h⟩

/-! ### The plugins -/

/-- What the regular expression matches. -/
lemma matchAmount_eq_some {m : List Char × Option (List Char)} (h : matchAmount l = some m) :
    AllDigits m.1 ∧ AllDigits (m.2.getD []) ∧ (m.2.getD []).length ≤ 8 ∧
      (l = m.1 ∧ m.2 = none ∨ l = m.1 ++ '.' :: m.2.getD [] ∧ m.2.isSome = true) := by
  have hl := List.takeWhile_append_dropWhile (p := Char.isDigit) (l := l)
  have hw : AllDigits (l.takeWhile Char.isDigit) := fun c hc => List.mem_takeWhile_imp hc
  unfold matchAmount at h
  rcases hd : l.dropWhile Char.isDigit with _ | ⟨c, frac⟩
  · rw [hd] at h hl
    cases h
    exact ⟨hw, by simp [AllDigits], by simp, Or.inl ⟨by simpa using hl.symm, rfl⟩⟩
  · rw [hd] at h hl
    by_cases hc : c = '.'
    · subst hc
      simp only at h
      split_ifs at h with hfrac
      cases h
      exact ⟨hw, hfrac.1, hfrac.2, Or.inr ⟨hl.symm, rfl⟩⟩
    · split at h
      · rename_i heq
        cases heq
      · rename_i heq
        exact absurd (List.cons.inj heq).1 hc
      · cases h

/-- On ASCII text the two languages trim the same. -/
lemma trim_ascii (h : ∀ c ∈ s.toList, c.toNat < 128) : trim s.toList = trimSpace s := by
  rw [← trimBy_isBlank, trimSpace]
  refine trimBy_congr fun c hc => ?_
  have := h c hc
  simp only [isBlank, isWhitespace]
  rw [decide_eq_decide]
  omega

/-- **What `zecToZat` accepts**: numerals below ten billion ZEC. -/
lemma zecToZat_spec (h : zecToZat s = some z) :
    ∃ whole fraction, ZecNumeral (trim s.toList) whole fraction ∧
      (z : ℚ) = pointValue whole fraction * 10 ^ 8 ∧ value whole < 10 ^ 10 := by
  unfold zecToZat at h
  simp only at h
  generalize trim s.toList = l at h ⊢
  rcases hm : matchAmount l with _ | ⟨m1, m2⟩
  · rw [hm] at h
    cases h
  · rw [hm] at h
    simp only at h
    obtain ⟨hw, hf, hshort, htext⟩ := matchAmount_eq_some hm
    simp only at hw hf hshort htext
    have hone : value (if m1 = [] then ['0'] else m1) = value m1 ∧
        AllDigits (if m1 = [] then ['0'] else m1) := by
      split_ifs with hnil
      · rw [hnil]
        decide
      · exact ⟨rfl, hw⟩
    generalize (if m1 = [] then ['0'] else m1) = shown at h hone
    obtain ⟨hone, hshown⟩ := hone
    split_ifs at h with hempty hlong
    have hnum : ZecNumeral l m1 (m2.getD []) := by
      refine ⟨htext.imp (fun ⟨h1, h2⟩ => ⟨h1, by rw [h2]; rfl⟩) fun h => h.1, hw, hf, hshort,
        fun hnil => hempty ?_⟩
      obtain ⟨h1, h2⟩ := List.append_eq_nil_iff.mp hnil
      rcases htext with ⟨hl, -⟩ | ⟨hl, -⟩
      · exact Or.inl (hl.trans h1)
      · rw [h1, h2] at hl
        exact Or.inr hl
    refine ⟨m1, m2.getD [], hnum, ?_, ?_⟩
    · rw [← zatOf_eq hnum, ← Option.some.inj h, hone]
      rfl
    · -- Leading zeros count neither for the length nor for the value.
      have hdigits : AllDigits (shown.dropWhile (· = '0')) :=
        fun c hc => hshown c ((List.dropWhile_suffix _).subset hc)
      calc value m1 = value (shown.dropWhile (· = '0')) := by rw [value_dropZeros, hone]
        _ < 10 ^ (shown.dropWhile (· = '0')).length := value_lt hdigits
        _ ≤ 10 ^ 10 := Nat.pow_le_pow_right (by omega) (by omega)

/-- What a plugin accepts of ASCII text, the service accepts with the same value. -/
lemma parseZecAmount_of_zecToZat (hs : ∀ c ∈ s.toList, c.toNat < 128)
    (h : zecToZat s = some z) : parseZecAmount s = some z := by
  obtain ⟨whole, fraction, hnum, hz, hlt⟩ := zecToZat_spec h
  refine parseZecAmount_eq_some.mpr ⟨whole, fraction, trim_ascii hs ▸ hnum, hz, ?_⟩
  have hzat : z = zatOf whole fraction := by
    rw [← zatOf_eq hnum] at hz
    exact_mod_cast hz
  have hpad : AllDigits (fraction.rightpad 8 '0') :=
    hnum.fraction_digits.append (allDigits_zeros _)
  have hf := value_lt hpad
  rw [length_rightpad_eq hnum.short] at hf
  have hi : i64Max = 2 ^ 63 - 1 := rfl
  rw [hzat, zatOf]
  omega

/-- **Amounts are exact in both languages**: what `parse_zec_amount` accepts and returns, that it
and `zecToZat` read back what is written, and that it accepts what `zecToZat` accepts. -/
theorem amounts_exact :
    (∀ s z, parseZecAmount s = some z ↔ ∃ whole fraction,
      ZecNumeral (trimSpace s) whole fraction ∧
        (z : ℚ) = pointValue whole fraction * 10 ^ 8 ∧ z ≤ i64Max) ∧
    (∀ z : ℕ, z ≤ i64Max → parseZecAmount (formatZatAsZec z) = some z) ∧
    (∀ s z, (∀ c ∈ s.toList, c.toNat < 128) → zecToZat s = some z → parseZecAmount s = some z) ∧
    ∀ z : ℕ, z < 10 ^ 18 → zecToZat (zatToZec z) = some z :=
  ⟨fun _ _ => parseZecAmount_eq_some, fun _ => parseZecAmount_format,
    fun _ _ => parseZecAmount_of_zecToZat, fun _ => zecToZat_formatZatAsZec⟩

end ZcashPayment

import Mathlib.Algebra.Order.Field.Basic
import Mathlib.Algebra.Order.Floor.Div
import Mathlib.Order.Bounds.Basic
import ZcashPayment.ZecAmounts

/-!
Store prices in zatoshis.

A price and a rate are decimal texts. Their product is computed on whole numbers, with the scales
of both added up, and rounded up to the next zatoshi. On the way in the shops hand over a number
(Medusa, as JavaScript shows it) or minor units (Vendure), which are written as a decimal text of
the same value.
-/

namespace ZcashPayment

open DecimalText

/-! ### parseDecimal and amountToZat, in both plugins -/

/-- `/^(\d+)(?:\.(\d+))?$/` -/
def matchDecimal (v : List Char) : Option (List Char × List Char) :=
  let whole := v.takeWhile Char.isDigit
  if whole = [] then none
  else
    match v.dropWhile Char.isDigit with
    | [] => some (whole, [])
    | '.' :: frac => if frac ≠ [] ∧ AllDigits frac then some (whole, frac) else none
    | _ => none

/-- The digits as a number, and how many stand after the point. -/
def parseDecimal (text : String) : Option (ℕ × ℕ) :=
  (matchDecimal (trim text.toList)).map fun m => (value (m.1 ++ m.2), m.2.length)

/-- `toLowerCase` on ASCII letters; no other character becomes one of `zec`. -/
def toLowerCase (s : String) : String := String.ofList (s.toList.map Char.toLower)

def amountToZat (amount currency : String) (zecPerUnit : Option String) : Option ℕ :=
  if toLowerCase currency = "zec" then (zecToZat amount).filter (· > 0)
  else
    match parseDecimal amount, zecPerUnit.bind parseDecimal with
    | some a, some r =>
      if r.1 = 0 then none
      else
        let product := a.1 * r.1 * zatPerZec
        let divisor := 10 ^ (a.2 + r.2)
        let zat := (product + divisor - 1) / divisor
        if zat > 0 then some zat else none
    | _, _ => none

/-! ### amountToString, in the Medusa plugin -/

/-- The number behind `e`, with its sign. -/
def matchPower : List Char → Option ℤ
  | e :: sign :: digits =>
    if (e = 'e' ∨ e = 'E') ∧ digits ≠ [] ∧ AllDigits digits then
      if sign = '+' then some (value digits)
      else if sign = '-' then some (-value digits)
      else none
    else none
  | _ => none

/-- `/^(\d+)(?:\.(\d+))?e([+-]\d+)$/i` -/
def matchExponent (s : List Char) : Option (List Char × List Char × ℤ) :=
  let whole := s.takeWhile Char.isDigit
  if whole = [] then none
  else
    match s.dropWhile Char.isDigit with
    | '.' :: rest =>
      let frac := rest.takeWhile Char.isDigit
      if frac = [] then none
      else (matchPower (rest.dropWhile Char.isDigit)).map (whole, frac, ·)
    | rest => (matchPower rest).map (whole, [], ·)

/-- `replace(/\.?0+$/, "")` -/
def stripZeros (l : List Char) : List Char :=
  let kept := l.rdropWhile (· = '0')
  if kept = l then l
  else if kept.getLast? = some '.' then kept.dropLast
  else kept

def expandExponent (s : List Char) : List Char :=
  match matchExponent s with
  | none => s
  | some (whole, frac, power) =>
    let digits := whole ++ frac
    let point : ℤ := whole.length + power
    if point ≤ 0 then
      stripZeros ('0' :: '.' :: (List.replicate (-point).toNat '0' ++ digits))
    else if point ≥ digits.length then
      digits ++ List.replicate (point - digits.length).toNat '0'
    else stripZeros (digits.take point.toNat ++ '.' :: digits.drop point.toNat)

/-- A value of unknown type, as far as it is looked at. -/
inductive UnknownAmount
  /-- A number, with what `String` shows. -/
  | number (finite negative : Bool) (text : String)
  | string (s : String)
  /-- An object with its `toJSON()`, its `numeric` or its `valueOf()`. -/
  | object (inner : UnknownAmount)
  /-- An object whose inner value is the object itself, and everything else. -/
  | other

def amountToString : UnknownAmount → Option String
  | .number finite negative text =>
    if ¬finite ∨ negative then none
    else
      let s := expandExponent text.toList
      if (matchDecimal s).isSome then some (String.ofList s) else none
  | .string text =>
    let s := trim text.toList
    if (matchDecimal s).isSome then some (String.ofList s) else none
  | .object inner => amountToString inner
  | .other => none

/-! ### minorUnitsToString, in the Vendure plugin -/

/-- An amount and a precision; `none` is anything that is no integer. -/
def minorUnitsToString (amount precision : Option ℤ) : Option String :=
  match amount with
  | none => none
  | some amount =>
    if amount.natAbs > maxSafeInteger ∨ amount < 0 then none
    else
      match precision with
      | none => none
      | some precision =>
        if precision < 0 ∨ precision > 18 then none
        else if precision = 0 then some (toString amount.natAbs)
        else
          let digits := (DecimalText.digits amount.natAbs).leftpad (precision.toNat + 1) '0'
          some (String.ofList (digits.take (digits.length - precision.toNat) ++
            '.' :: digits.drop (digits.length - precision.toNat)))

/-! ### Plain decimals -/

/-- Digits, and after a point more digits. -/
structure PlainDecimal (l whole fraction : List Char) : Prop where
  text : l = whole ∧ fraction = [] ∨ l = whole ++ '.' :: fraction ∧ fraction ≠ []
  some_digit : whole ≠ []
  whole_digits : AllDigits whole
  fraction_digits : AllDigits fraction

variable {l whole fraction : List Char}

lemma takeWhile_digits (h : AllDigits l) : l.takeWhile Char.isDigit = l :=
  List.takeWhile_eq_self_iff.mpr h

lemma dropWhile_digits (h : AllDigits l) : l.dropWhile Char.isDigit = [] :=
  List.dropWhile_eq_nil_iff.mpr h

/-- **The regular expression** matches the plain decimals, with their parts. -/
lemma matchDecimal_eq_some :
    matchDecimal l = some (whole, fraction) ↔ PlainDecimal l whole fraction := by
  constructor
  · intro h
    have hl := List.takeWhile_append_dropWhile (p := Char.isDigit) (l := l)
    have hw : AllDigits (l.takeWhile Char.isDigit) := fun c hc => List.mem_takeWhile_imp hc
    unfold matchDecimal at h
    simp only at h
    split_ifs at h with hne
    rcases hd : l.dropWhile Char.isDigit with _ | ⟨c, frac⟩
    · rw [hd] at h hl
      cases h
      exact ⟨Or.inl ⟨by simpa using hl.symm, rfl⟩, hne, hw, by simp [AllDigits]⟩
    · rw [hd] at h hl
      by_cases hc : c = '.'
      · subst hc
        simp only at h
        split_ifs at h with hfrac
        cases h
        exact ⟨Or.inr ⟨hl.symm, hfrac.1⟩, hne, hw, hfrac.2⟩
      · split at h
        · rename_i heq
          cases heq
        · rename_i heq
          exact absurd (List.cons.inj heq).1 hc
        · cases h
  · rintro ⟨htext, hne, hw, hf⟩
    have hpoint : Char.isDigit '.' = false := rfl
    unfold matchDecimal
    rcases htext with ⟨rfl, rfl⟩ | ⟨rfl, hfne⟩
    · simp only [takeWhile_digits hw, dropWhile_digits hw, if_neg hne]
    · simp only [takeWhile_digits_append hw hpoint, dropWhile_digits_append hw hpoint, if_neg hne]
      rw [if_pos ⟨hfne, hf⟩]

/-! ### Prices -/

/-- The number a plain decimal stands for; `none` where the text is malformed. -/
def decimalOf (text : String) : Option ℚ :=
  (matchDecimal (trim text.toList)).map fun m => pointValue m.1 m.2

lemma parseDecimal_eq_some {text : String} {a : ℕ × ℕ} (h : parseDecimal text = some a) :
    decimalOf text = some ((a.1 : ℚ) / 10 ^ a.2) := by
  obtain ⟨m, hm, rfl⟩ := Option.map_eq_some_iff.mp h
  rw [decimalOf, hm]
  rfl

lemma decimalOf_eq_none {text : String} : decimalOf text = none ↔ parseDecimal text = none := by
  rw [decimalOf, parseDecimal, Option.map_eq_none_iff, Option.map_eq_none_iff]

/-- Rounding up the whole numbers rounds up their quotient. -/
lemma isLeast_ceil (product scale : ℕ) :
    IsLeast {z : ℤ | (product : ℚ) / 10 ^ scale / 10 ^ 8 ≤ z / 10 ^ 8}
      ((product + 10 ^ scale - 1) / 10 ^ scale : ℕ) := by
  have hpos : 0 < 10 ^ scale := Nat.pow_pos (by decide)
  have hq : (0 : ℚ) < 10 ^ scale := by exact_mod_cast hpos
  have hunit : (0 : ℚ) < 10 ^ 8 := by norm_num
  have hle : ∀ z : ℤ, (product : ℚ) / 10 ^ scale / 10 ^ 8 ≤ z / 10 ^ 8 ↔
      (product : ℤ) ≤ z * (10 ^ scale : ℕ) := fun z => by
    rw [div_le_div_iff_of_pos_right hunit, div_le_iff₀ hq]
    constructor
    · intro h
      exact_mod_cast h
    · intro h
      exact_mod_cast h
  rw [← Nat.ceilDiv_eq_add_pred_div]
  constructor
  · refine (hle _).mpr ?_
    have hup : product ≤ 10 ^ scale * (product ⌈/⌉ 10 ^ scale) :=
      (ceilDiv_le_iff_le_mul hpos).mp le_rfl
    rw [Nat.mul_comm] at hup
    exact_mod_cast hup
  · intro z hz
    have hz : (product : ℤ) ≤ z * (10 ^ scale : ℕ) := (hle z).mp hz
    rcases lt_or_ge z 0 with hneg | hnonneg
    · have : z * (10 ^ scale : ℕ) < 0 := mul_neg_of_neg_of_pos hneg (by exact_mod_cast hpos)
      omega
    · obtain ⟨n, rfl⟩ := Int.eq_ofNat_of_zero_le hnonneg
      have hn : product ≤ n * 10 ^ scale := by exact_mod_cast hz
      rw [Nat.mul_comm] at hn
      exact_mod_cast (ceilDiv_le_iff_le_mul hpos).mpr hn

section price

variable {amount currency rate text : String} {zecPerUnit : Option String} {z : ℕ}

/-- What the conversion of a well-formed price computes. -/
lemma amountToZat_parsed {a r : ℕ × ℕ} (hcurrency : toLowerCase currency ≠ "zec")
    (ha : parseDecimal amount = some a) (hr : zecPerUnit.bind parseDecimal = some r) :
    amountToZat amount currency zecPerUnit =
      if a.1 * r.1 = 0 then none
      else some ((a.1 * r.1 * zatPerZec + 10 ^ (a.2 + r.2) - 1) / 10 ^ (a.2 + r.2)) := by
  have hpos : 0 < 10 ^ (a.2 + r.2) := Nat.pow_pos (by decide)
  rw [amountToZat, if_neg hcurrency, ha, hr]
  simp only
  by_cases hr0 : r.1 = 0
  · rw [if_pos hr0, if_pos (by rw [hr0, Nat.mul_zero])]
  · rw [if_neg hr0]
    by_cases ha0 : a.1 = 0
    · have hzero : (a.1 * r.1 * zatPerZec + 10 ^ (a.2 + r.2) - 1) / 10 ^ (a.2 + r.2) = 0 := by
        rw [ha0, Nat.zero_mul, Nat.zero_mul, Nat.zero_add]
        exact Nat.div_eq_of_lt (by omega)
      rw [hzero, if_neg (by omega), if_pos (by rw [ha0, Nat.zero_mul])]
    · have hproduct : 0 < a.1 * r.1 := Nat.mul_pos (by omega) (by omega)
      have hup : 0 < (a.1 * r.1 * zatPerZec + 10 ^ (a.2 + r.2) - 1) / 10 ^ (a.2 + r.2) := by
        refine Nat.div_pos ?_ hpos
        unfold zatPerZec
        omega
      rw [if_pos hup, if_neg (by omega)]

/-- **A price in another currency**: the least whole number of zatoshis that is worth it, and
nothing where a text is malformed or the price is zero. -/
lemma price_exact (hcurrency : toLowerCase currency ≠ "zec") :
    (∀ z, amountToZat amount currency zecPerUnit = some z ↔
      ∃ a r, decimalOf amount = some a ∧ zecPerUnit.bind decimalOf = some r ∧ a * r ≠ 0 ∧
        IsLeast {n : ℤ | a * r ≤ n / 10 ^ 8} z) ∧
    (amountToZat amount currency zecPerUnit = none ↔
      decimalOf amount = none ∨ zecPerUnit.bind decimalOf = none ∨
        ∃ a r, decimalOf amount = some a ∧ zecPerUnit.bind decimalOf = some r ∧ a * r = 0) := by
  have hrate : zecPerUnit.bind decimalOf = none ↔ zecPerUnit.bind parseDecimal = none := by
    rcases zecPerUnit with _ | rate
    · simp
    · exact decimalOf_eq_none
  rcases ha : parseDecimal amount with _ | a
  · have hnone : amountToZat amount currency zecPerUnit = none := by
      rw [amountToZat, if_neg hcurrency, ha]
    have hd := decimalOf_eq_none.mpr ha
    simp [hnone, hd]
  rcases hr : zecPerUnit.bind parseDecimal with _ | r
  · have hnone : amountToZat amount currency zecPerUnit = none := by
      rw [amountToZat, if_neg hcurrency, ha, hr]
    have hd := hrate.mpr hr
    simp [hnone, hd]
  have hda := parseDecimal_eq_some ha
  have hdr : zecPerUnit.bind decimalOf = some ((r.1 : ℚ) / 10 ^ r.2) := by
    obtain ⟨rate, rfl, hparsed⟩ := Option.bind_eq_some_iff.mp hr
    exact parseDecimal_eq_some hparsed
  have hten : ∀ n : ℕ, (10 : ℚ) ^ n ≠ 0 := fun n => pow_ne_zero n (by norm_num)
  have hmul : (a.1 : ℚ) / 10 ^ a.2 * ((r.1 : ℚ) / 10 ^ r.2) =
      ((a.1 * r.1 * zatPerZec : ℕ) : ℚ) / 10 ^ (a.2 + r.2) / 10 ^ 8 := by
    have hzat : ((zatPerZec : ℕ) : ℚ) = 10 ^ 8 := by norm_num [zatPerZec]
    rw [Nat.cast_mul, Nat.cast_mul, hzat, div_mul_div_comm, ← pow_add, div_div,
      mul_div_mul_right _ _ (hten 8)]
  have hzero : (a.1 : ℚ) / 10 ^ a.2 * ((r.1 : ℚ) / 10 ^ r.2) = 0 ↔ a.1 * r.1 = 0 := by
    rw [div_mul_div_comm, div_eq_zero_iff, or_iff_left (mul_ne_zero (hten _) (hten _)),
      ← Nat.cast_mul, Nat.cast_eq_zero]
  have hleast := isLeast_ceil (a.1 * r.1 * zatPerZec) (a.2 + r.2)
  rw [← hmul] at hleast
  rw [amountToZat_parsed hcurrency ha hr, hda, hdr]
  constructor
  · intro z
    constructor
    · intro h
      split_ifs at h with h0
      exact ⟨_, _, rfl, rfl, fun h => h0 (hzero.mp h), Option.some.inj h ▸ hleast⟩
    · rintro ⟨x, y, hx, hy, hne, hz⟩
      cases hx
      cases hy
      rw [if_neg fun h => hne (hzero.mpr h)]
      have := hleast.unique hz
      rw [Option.some.injEq]
      exact_mod_cast this
  · simp only [reduceCtorEq, false_or, Option.some.injEq, exists_and_left, exists_eq_left']
    rw [hzero]
    split_ifs with h0 <;> simp [h0]

/-! ### ZEC amounts -/

/-- Without leading zeros, a number of more than `n` digits is at least `10 ^ n`. -/
lemma length_le_of_value_lt {n : ℕ} (hl : AllDigits l)
    (hv : value (l.dropWhile (· = '0')) < 10 ^ n) : (l.dropWhile (· = '0')).length ≤ n := by
  rcases hd : l.dropWhile (· = '0') with _ | ⟨c, rest⟩
  · exact Nat.zero_le n
  · have hc : c ≠ '0' := by
      have := List.head_dropWhile_not (p := (· = '0')) (l := l) (by rw [hd]; simp)
      simpa [hd] using this
    have hdigit : c.isDigit = true :=
      hl c ((List.dropWhile_suffix _).subset (hd ▸ List.mem_cons_self))
    have hpos : 1 ≤ value [c] := by
      have hrange : 48 ≤ c.toNat ∧ c.toNat ≤ 57 := by
        simp only [Char.isDigit, Bool.and_eq_true, decide_eq_true_eq] at hdigit
        exact hdigit
      have hne : c.toNat ≠ 48 := fun h => hc (Char.toNat_inj.mp h)
      simp only [value, Nat.ofDigitChars_cons, Nat.ofDigitChars_nil]
      have : '0'.toNat = 48 := rfl
      omega
    rw [hd, value_cons] at hv
    have hlow : 10 ^ rest.length ≤ value [c] * 10 ^ rest.length := Nat.le_mul_of_pos_left _ hpos
    have hlt : 10 ^ rest.length < 10 ^ n := by omega
    have := (Nat.pow_lt_pow_iff_right (by decide)).mp hlt
    rw [List.length_cons]
    omega

/-- **What `zecToZat` accepts**: the numerals below ten billion ZEC, at their exact value. -/
lemma zecToZat_eq_some :
    zecToZat text = some z ↔ ∃ whole fraction, ZecNumeral (trim text.toList) whole fraction ∧
      (z : ℚ) = pointValue whole fraction * 10 ^ 8 ∧ value whole < 10 ^ 10 := by
  refine ⟨zecToZat_spec, ?_⟩
  rintro ⟨whole, fraction, hnum, hz, hlt⟩
  have hzat : z = zatOf whole fraction := by
    rw [← zatOf_eq hnum] at hz
    exact_mod_cast hz
  have hpoint : Char.isDigit '.' = false := rfl
  obtain ⟨m2, hmatch, hm2⟩ : ∃ m2, matchAmount (trim text.toList) = some (whole, m2) ∧
      m2.getD [] = fraction := by
    rcases hnum.text with ⟨hl, hf⟩ | hl
    · refine ⟨none, ?_, hf.symm⟩
      rw [hl, matchAmount, takeWhile_digits hnum.whole_digits, dropWhile_digits hnum.whole_digits]
    · refine ⟨some fraction, ?_, rfl⟩
      rw [hl, matchAmount, takeWhile_digits_append hnum.whole_digits hpoint,
        dropWhile_digits_append hnum.whole_digits hpoint]
      simp only
      rw [if_pos ⟨hnum.fraction_digits, hnum.short⟩]
  have hne : ¬(trim text.toList = [] ∨ trim text.toList = ['.']) := by
    rintro (hnil | hdot)
    · rcases hnum.text with ⟨hl, hf⟩ | hl
      · exact hnum.some_digit (by rw [hf, ← hl, hnil]; rfl)
      · rw [hnil] at hl
        simp at hl
    · rcases hnum.text with ⟨hl, -⟩ | hl
      · exact hnum.whole_digits.notMem_point (by rw [← hl, hdot]; exact List.mem_cons_self)
      · have hlen := congrArg List.length hl
        rw [hdot, List.length_append, List.length_cons] at hlen
        simp only [List.length_cons, List.length_nil] at hlen
        refine hnum.some_digit ?_
        rw [List.length_eq_zero_iff.mp (show whole.length = 0 by omega),
          List.length_eq_zero_iff.mp (show fraction.length = 0 by omega)]
        rfl
  have hshown : value (if whole = [] then ['0'] else whole) = value whole ∧
      AllDigits (if whole = [] then ['0'] else whole) := by
    split_ifs with hnil
    · rw [hnil]
      decide
    · exact ⟨rfl, hnum.whole_digits⟩
  simp only [zecToZat, hmatch]
  generalize (if whole = [] then ['0'] else whole) = shown at hshown ⊢
  have hshort := length_le_of_value_lt (n := 10) hshown.2
    (by rw [value_dropZeros, hshown.1]; exact hlt)
  rw [if_neg hne, if_neg (by omega), hshown.1, hm2, hzat]
  rfl

/-- **A ZEC amount** is used as it is, at its exact value, unless it is zero. -/
lemma zec_exact (hcurrency : toLowerCase currency = "zec") :
    amountToZat amount currency zecPerUnit = some z ↔
      ∃ whole fraction, ZecNumeral (trim amount.toList) whole fraction ∧
        (z : ℚ) = pointValue whole fraction * 10 ^ 8 ∧ value whole < 10 ^ 10 ∧ 0 < z := by
  rw [amountToZat, if_pos hcurrency, Option.filter_eq_some_iff, zecToZat_eq_some]
  simp only [decide_eq_true_eq, gt_iff_lt]
  constructor
  · rintro ⟨⟨whole, fraction, hnum, hz, hlt⟩, hpos⟩
    exact ⟨whole, fraction, hnum, hz, hlt, hpos⟩
  · rintro ⟨whole, fraction, hnum, hz, hlt, hpos⟩
    exact ⟨⟨whole, fraction, hnum, hz, hlt⟩, hpos⟩

end price

/-! ### Numbers on the way in -/

/-- Zeros at the end, and the point they leave behind, may be taken away. -/
lemma stripZeros_plain (hne : whole ≠ []) (hw : AllDigits whole) (hf : AllDigits fraction)
    (hfne : fraction ≠ []) :
    ∃ kept, PlainDecimal (stripZeros (whole ++ '.' :: fraction)) whole kept ∧
      pointValue whole kept = pointValue whole fraction := by
  set kept := fraction.rdropWhile (· = '0') with hkept
  obtain ⟨k, hk⟩ : ∃ k, fraction = kept ++ List.replicate k '0' := by
    refine ⟨(fraction.rtakeWhile (· = '0')).length, ?_⟩
    have hzeros : fraction.rtakeWhile (· = '0') =
        List.replicate (fraction.rtakeWhile (· = '0')).length '0' :=
      List.eq_replicate_of_mem fun c hc => by simpa using List.mem_rtakeWhile_imp hc
    rw [← hzeros, hkept]
    exact List.rdropWhile_append_rtakeWhile.symm
  have hkd : AllDigits kept := by
    rw [hk] at hf
    exact hf.of_append_left
  have hvalue : pointValue whole kept = pointValue whole fraction := by
    rw [hk, pointValue_append_zeros]
  -- The zeros are dropped up to a digit, or up to the point.
  have hlast : ∀ h : whole ++ '.' :: kept ≠ [], (whole ++ '.' :: kept).getLast h ≠ '0' := by
    intro h
    rw [List.getLast_append_of_ne_nil _ (List.cons_ne_nil _ _)]
    by_cases hnil : kept = []
    · simp [hnil]
    · rw [List.getLast_cons hnil]
      simpa using List.rdropWhile_last_not (p := (· = '0')) fraction hnil
  have hdrop : (whole ++ '.' :: fraction).rdropWhile (· = '0') = whole ++ '.' :: kept := by
    have hzeros : (List.replicate k '0' ++ (whole ++ '.' :: kept).reverse).dropWhile (· = '0') =
        (whole ++ '.' :: kept).reverse.dropWhile (· = '0') :=
      List.dropWhile_append_of_pos fun c hc => by simp [List.eq_of_mem_replicate hc]
    have hself : (whole ++ '.' :: kept).rdropWhile (· = '0') = whole ++ '.' :: kept :=
      List.rdropWhile_eq_self_iff.mpr fun h => by simpa using hlast h
    calc (whole ++ '.' :: fraction).rdropWhile (· = '0')
        = ((whole ++ '.' :: kept) ++ List.replicate k '0').rdropWhile (· = '0') := by
          rw [List.append_assoc, List.cons_append, ← hk]
      _ = (whole ++ '.' :: kept).rdropWhile (· = '0') := by
          rw [List.rdropWhile, List.reverse_append, List.reverse_replicate, hzeros, List.rdropWhile]
      _ = whole ++ '.' :: kept := hself
  unfold stripZeros
  simp only [hdrop]
  split_ifs with hsame hpoint
  · exact ⟨fraction, ⟨Or.inr ⟨rfl, hfne⟩, hne, hw, hf⟩, rfl⟩
  · -- Nothing is left after the point.
    have hnil : kept = [] := by
      by_contra hkne
      rw [List.getLast?_append_of_ne_nil _ (List.cons_ne_nil _ _), List.getLast?_cons,
        List.getLast?_eq_getLast_of_ne_nil hkne] at hpoint
      have hmem := List.getLast_mem hkne
      rw [show kept.getLast hkne = '.' by simpa using hpoint] at hmem
      exact hkd.notMem_point hmem
    refine ⟨[], ?_, by rw [← hvalue, hnil]⟩
    rw [hnil, List.dropLast_concat]
    exact ⟨Or.inl ⟨rfl, rfl⟩, hne, hw, by simp [AllDigits]⟩
  · refine ⟨kept, ⟨Or.inr ⟨rfl, fun hnil => hpoint ?_⟩, hne, hw, hkd⟩, hvalue⟩
    rw [hnil]
    simp

/-- The text of a number, and its value: plain, or with a power of ten. -/
inductive NumberText : List Char → ℚ → Prop
  | plain {l whole fraction : List Char} : PlainDecimal l whole fraction →
      NumberText l (pointValue whole fraction)
  | power {l whole fraction digits : List Char} {e : Char} :
      PlainDecimal l whole fraction → e = 'e' ∨ e = 'E' → digits ≠ [] → AllDigits digits →
      NumberText (l ++ e :: '+' :: digits) (pointValue whole fraction * 10 ^ (value digits : ℤ))
  | negPower {l whole fraction digits : List Char} {e : Char} :
      PlainDecimal l whole fraction → e = 'e' ∨ e = 'E' → digits ≠ [] → AllDigits digits →
      NumberText (l ++ e :: '-' :: digits) (pointValue whole fraction * 10 ^ (-value digits : ℤ))

lemma matchExponent_plain (h : PlainDecimal l whole fraction) : matchExponent l = none := by
  have hpoint : Char.isDigit '.' = false := rfl
  unfold matchExponent
  rcases h.text with ⟨rfl, rfl⟩ | ⟨rfl, hfne⟩
  · simp only [takeWhile_digits h.whole_digits, dropWhile_digits h.whole_digits,
      if_neg h.some_digit]
    rfl
  · simp only [takeWhile_digits_append h.whole_digits hpoint,
      dropWhile_digits_append h.whole_digits hpoint, takeWhile_digits h.fraction_digits,
      dropWhile_digits h.fraction_digits, if_neg h.some_digit, if_neg hfne]
    rfl

lemma matchExponent_power (h : PlainDecimal l whole fraction) {e : Char} {tail : List Char}
    {power : ℤ} (he : e = 'e' ∨ e = 'E') (hpower : matchPower (e :: tail) = some power) :
    matchExponent (l ++ e :: tail) = some (whole, fraction, power) := by
  have hpoint : Char.isDigit '.' = false := rfl
  have hdigit : e.isDigit = false := by
    rcases he with rfl | rfl <;> rfl
  have hdot : e ≠ '.' := by
    rcases he with rfl | rfl <;> decide
  unfold matchExponent
  rcases h.text with ⟨rfl, rfl⟩ | ⟨rfl, hfne⟩
  · simp only [takeWhile_digits_append h.whole_digits hdigit,
      dropWhile_digits_append h.whole_digits hdigit, if_neg h.some_digit]
    split
    · rename_i heq
      exact absurd (List.cons.inj heq).1 hdot
    · rw [hpower]
      rfl
  · simp only [List.append_assoc, List.cons_append,
      takeWhile_digits_append h.whole_digits hpoint,
      dropWhile_digits_append h.whole_digits hpoint,
      takeWhile_digits_append h.fraction_digits hdigit,
      dropWhile_digits_append h.fraction_digits hdigit, if_neg h.some_digit, if_neg hfne, hpower]
    rfl

/-- The number of digits with the point after the first `point` of them. -/
lemma pointValue_shift (whole fraction : List Char) (power : ℤ) :
    pointValue whole fraction * 10 ^ power =
      (value (whole ++ fraction) : ℚ) *
        10 ^ ((whole.length : ℤ) + power - (whole ++ fraction).length) := by
  have hten : (10 : ℚ) ≠ 0 := by norm_num
  rw [pointValue, div_eq_mul_inv, ← zpow_natCast, ← zpow_neg, mul_assoc, ← zpow_add₀ hten,
    List.length_append]
  congr 2
  push_cast
  ring

/-- **Expanding an exponent** gives a plain decimal of the same value. -/
lemma expandExponent_power {s : List Char} {power : ℤ}
    (hm : matchExponent s = some (whole, fraction, power)) (hne : whole ≠ [])
    (hw : AllDigits whole) (hf : AllDigits fraction) :
    ∃ w f, PlainDecimal (expandExponent s) w f ∧
      pointValue w f = pointValue whole fraction * 10 ^ power := by
  have hd : AllDigits (whole ++ fraction) := hw.append hf
  have hlen : 0 < (whole ++ fraction).length := by
    rw [List.length_append]
    have := List.length_pos_iff.mpr hne
    omega
  have hten : (10 : ℚ) ≠ 0 := by norm_num
  rw [pointValue_shift]
  unfold expandExponent
  rw [hm]
  simp only
  set digits := whole ++ fraction
  generalize (whole.length : ℤ) + power = point
  split_ifs with hlow hhigh
  · -- The point stands before all digits.
    have hdigits : AllDigits (List.replicate (-point).toNat '0' ++ digits) :=
      (allDigits_zeros _).append hd
    have hzero : ['0'] ≠ [] := List.cons_ne_nil _ _
    obtain ⟨kept, hplain, hvalue⟩ := stripZeros_plain hzero
      (by decide) hdigits (by simp [List.length_pos_iff.mp hlen])
    refine ⟨['0'], kept, hplain, hvalue.trans ?_⟩
    rw [pointValue, List.singleton_append,
      show '0' :: (List.replicate (-point).toNat '0' ++ digits) =
      List.replicate ((-point).toNat + 1) '0' ++ digits from rfl, value_zeros_append,
      div_eq_mul_inv, ← zpow_natCast, ← zpow_neg, List.length_append, List.length_replicate]
    congr 2
    push_cast
    omega
  · -- Zeros fill the digits up to the point.
    refine ⟨digits ++ List.replicate (point - digits.length).toNat '0', [],
      ⟨Or.inl ⟨rfl, rfl⟩, by simp [List.length_pos_iff.mp hlen], hd.append (allDigits_zeros _),
        by simp [AllDigits]⟩, ?_⟩
    rw [pointValue_nil, value_append_zeros, Nat.cast_mul, Nat.cast_pow, Nat.cast_ofNat,
      ← zpow_natCast]
    congr 2
    omega
  · -- The point stands between the digits.
    have hsplit : digits.take point.toNat ++ digits.drop point.toNat = digits :=
      List.take_append_drop _ _
    have htake : digits.take point.toNat ≠ [] := by
      rw [← List.length_pos_iff, List.length_take]
      omega
    have hdrop : digits.drop point.toNat ≠ [] := by
      rw [← List.length_pos_iff, List.length_drop]
      omega
    obtain ⟨kept, hplain, hvalue⟩ := stripZeros_plain htake
      (fun c hc => hd c (List.take_subset _ _ hc)) (fun c hc => hd c (List.drop_subset _ _ hc))
      hdrop
    refine ⟨_, kept, hplain, hvalue.trans ?_⟩
    rw [pointValue, hsplit, div_eq_mul_inv, ← zpow_natCast, ← zpow_neg, List.length_drop]
    congr 2
    omega

/-- **A number keeps its value** when it is written as a plain decimal. -/
lemma amountToString_number {text : String} {x : ℚ} (h : NumberText text.toList x) :
    ∃ out w f, amountToString (.number true false text) = some out ∧
      PlainDecimal out.toList w f ∧ pointValue w f = x := by
  obtain ⟨w, f, hplain, hvalue⟩ : ∃ w f, PlainDecimal (expandExponent text.toList) w f ∧
      pointValue w f = x := by
    generalize text.toList = s at h ⊢
    cases h with
    | plain hl =>
      refine ⟨_, _, ?_, rfl⟩
      rw [expandExponent, matchExponent_plain hl]
      exact hl
    | power hl he hne hdigits =>
      refine expandExponent_power (matchExponent_power hl he ?_) hl.some_digit hl.whole_digits
        hl.fraction_digits
      rw [matchPower, if_pos ⟨he, hne, hdigits⟩, if_pos rfl]
    | negPower hl he hne hdigits =>
      refine expandExponent_power (matchExponent_power hl he ?_) hl.some_digit hl.whole_digits
        hl.fraction_digits
      rw [matchPower, if_pos ⟨he, hne, hdigits⟩, if_neg (by decide), if_pos rfl]
  refine ⟨String.ofList (expandExponent text.toList), w, f, ?_, by rwa [String.toList_ofList],
    hvalue⟩
  simp [amountToString, matchDecimal_eq_some.mpr hplain]

/-- **Minor units keep their value** when they are written as a plain decimal. -/
lemma minorUnitsToString_exact {n p : ℕ} (hn : n ≤ maxSafeInteger) (hp : p ≤ 18) :
    ∃ out w f, minorUnitsToString (some n) (some p) = some out ∧ PlainDecimal out.toList w f ∧
      pointValue w f = n / 10 ^ p := by
  unfold minorUnitsToString
  simp only [Int.natAbs_natCast, Int.toNat_natCast]
  rw [if_neg (by omega), if_neg (by omega)]
  split_ifs with h0
  · have hp0 : p = 0 := by omega
    refine ⟨toString n, digits n, [], rfl, ?_, by simp [hp0]⟩
    rw [toList_toString]
    exact ⟨Or.inl ⟨rfl, rfl⟩, digits_ne_nil n, allDigits_digits n, by simp [AllDigits]⟩
  · set padded := (digits n).leftpad (p + 1) '0' with hpadded
    have hpd : AllDigits padded := (allDigits_zeros _).append (allDigits_digits n)
    have hlen : p + 1 ≤ padded.length := by
      rw [hpadded, List.leftpad, List.length_append, List.length_replicate]
      omega
    have hsplit : padded.take (padded.length - p) ++ padded.drop (padded.length - p) = padded :=
      List.take_append_drop _ _
    refine ⟨_, padded.take (padded.length - p), padded.drop (padded.length - p), rfl, ?_, ?_⟩
    · rw [String.toList_ofList]
      refine ⟨Or.inr ⟨rfl, ?_⟩, ?_, fun c hc => hpd c (List.take_subset _ _ hc),
        fun c hc => hpd c (List.drop_subset _ _ hc)⟩
      · rw [← List.length_pos_iff, List.length_drop]
        omega
      · rw [← List.length_pos_iff, List.length_take]
        omega
    · rw [pointValue, hsplit, List.length_drop, hpadded, List.leftpad, value_zeros_append,
        value_digits, ← List.leftpad, ← hpadded]
      congr 2
      omega

/-- **Store prices in zatoshis**: rounded up to the least sufficient amount in another currency,
exact in ZEC, and written without loss on the way in. -/
theorem prices_exact :
    (∀ amount currency zecPerUnit, toLowerCase currency ≠ "zec" →
      (∀ z, amountToZat amount currency zecPerUnit = some z ↔
        ∃ a r, decimalOf amount = some a ∧ zecPerUnit.bind decimalOf = some r ∧ a * r ≠ 0 ∧
          IsLeast {n : ℤ | a * r ≤ n / 10 ^ 8} z) ∧
      (amountToZat amount currency zecPerUnit = none ↔
        decimalOf amount = none ∨ zecPerUnit.bind decimalOf = none ∨
          ∃ a r, decimalOf amount = some a ∧ zecPerUnit.bind decimalOf = some r ∧ a * r = 0)) ∧
    (∀ amount currency zecPerUnit, toLowerCase currency = "zec" →
      ∀ z, amountToZat amount currency zecPerUnit = some z ↔
        ∃ whole fraction, ZecNumeral (trim amount.toList) whole fraction ∧
          (z : ℚ) = pointValue whole fraction * 10 ^ 8 ∧ value whole < 10 ^ 10 ∧ 0 < z) ∧
    (∀ (text : String) (x : ℚ), NumberText text.toList x →
      ∃ out w f, amountToString (.number true false text) = some out ∧
        PlainDecimal out.toList w f ∧ pointValue w f = x) ∧
    ∀ n p : ℕ, n ≤ maxSafeInteger → p ≤ 18 →
      ∃ out w f, minorUnitsToString (some n) (some p) = some out ∧
        PlainDecimal out.toList w f ∧ pointValue w f = n / 10 ^ p :=
  ⟨fun _ _ _ => price_exact, fun _ _ _ hzec _ => zec_exact hzec,
    fun _ _ => amountToString_number, fun _ _ => minorUnitsToString_exact⟩

/-- **A ZEC amount that is not converted**: ten billion ZEC. -/
theorem zec_amount_not_converted :
    amountToZat "10000000000" "ZEC" none = none ∧
      ∃ whole fraction, ZecNumeral (trim "10000000000".toList) whole fraction ∧
        pointValue whole fraction = 10 ^ 10 := by
  refine ⟨by decide, "10000000000".toList, [], ?_, ?_⟩
  · exact ⟨Or.inl ⟨by decide, rfl⟩, by decide, by decide, by decide, by decide⟩
  · have hvalue : value "10000000000".toList = 10 ^ 10 := by decide
    rw [pointValue_nil, hvalue]
    norm_num

end ZcashPayment

import Mathlib.Data.List.Basic
import Mathlib.Tactic.Common
import Mathlib.Tactic.IntervalCases

/-!
Bytes as hexadecimal text.

A byte is written as two digits in lower case. A decoder reads digits of either case two at a time
and stops at the first pair that is none, so that a text of digits is, letter case aside, what its
bytes are written as.
-/

namespace HexText

abbrev Bytes := List UInt8

def lowerDigits : List Char := "0123456789abcdef".toList

/-- The digits of either case. -/
def hexDigits : List Char := "0123456789abcdefABCDEF".toList

def digit (n : ℕ) : Char := lowerDigits.getD n '0'

def encode (bytes : Bytes) : List Char :=
  bytes.flatMap fun byte => [digit (byte.toNat / 16), digit (byte.toNat % 16)]

def digitValue (c : Char) : Option ℕ := lowerDigits.idxOf? c.toLower

def decode : List Char → Bytes
  | hi :: lo :: rest =>
    match digitValue hi, digitValue lo with
    | some h, some l => UInt8.ofNat (16 * h + l) :: decode rest
    | _, _ => []
  | _ => []

variable {c : Char} {l : List Char} {n : ℕ} {bytes : Bytes}

/-! ### Digits -/

lemma digitValue_digit (h : n < 16) : digitValue (digit n) = some n := by
  revert n
  decide

lemma digit_mem (h : n < 16) : digit n ∈ lowerDigits := by
  revert n
  decide

lemma digitValue_of_mem (h : c ∈ hexDigits) :
    ∃ n < 16, digitValue c = some n ∧ digit n = c.toLower := by
  have hall : hexDigits.all (fun c =>
      (digitValue c).any fun n => n < 16 && digit n = c.toLower) = true := by decide
  have hc := List.all_eq_true.mp hall c h
  obtain ⟨n, hn, hd⟩ := (Option.any_eq_true _ _).mp hc
  simp only [Bool.and_eq_true, decide_eq_true_eq] at hd
  exact ⟨n, hd.1, hn, hd.2⟩

lemma toLower_of_mem (h : c ∈ lowerDigits) : c.toLower = c ∧ c ∈ hexDigits := by
  have hall : lowerDigits.all (fun c => c.toLower = c && hexDigits.contains c) = true := by decide
  simpa using List.all_eq_true.mp hall c h

/-- A character whose lower case is a digit is one of either case. -/
lemma mem_of_toLower_mem (h : c.toLower ∈ lowerDigits) : c ∈ hexDigits := by
  by_cases hc : c.isUpper = true
  · have hrange : 65 ≤ c.toNat ∧ c.toNat ≤ 90 := by
      have := of_decide_eq_true hc
      exact ⟨this.1, this.2⟩
    obtain ⟨hlo, hhi⟩ := hrange
    have hcode : c = Char.ofNat c.toNat := (Char.ofNat_toNat c).symm
    generalize c.toNat = k at hlo hhi hcode
    subst hcode
    revert h
    interval_cases k <;> decide
  · have hlower : c.toLower = c := by
      unfold Char.toLower
      exact dif_neg fun h => hc (decide_eq_true h)
    rw [hlower] at h
    exact (toLower_of_mem h).2

/-! ### Texts -/

@[simp] lemma length_encode (bytes : Bytes) : (encode bytes).length = 2 * bytes.length := by
  induction bytes with
  | nil => rfl
  | cons byte bytes ih =>
    simp only [encode, List.flatMap_cons, List.length_append, List.length_cons,
      List.length_nil] at ih ⊢
    omega

lemma mem_encode (h : c ∈ encode bytes) : c ∈ lowerDigits := by
  obtain ⟨byte, -, hc⟩ := List.mem_flatMap.mp h
  have := byte.toNat_lt
  rcases List.mem_cons.mp hc with rfl | hc
  · exact digit_mem (by omega)
  · rw [List.mem_singleton.mp hc]
    exact digit_mem (by omega)

/-- **What was written is read back.** -/
lemma decode_encode (bytes : Bytes) : decode (encode bytes) = bytes := by
  induction bytes with
  | nil => rfl
  | cons byte bytes ih =>
    have hlt := byte.toNat_lt
    have hbyte : 16 * (byte.toNat / 16) + byte.toNat % 16 = byte.toNat := by omega
    calc decode (encode (byte :: bytes))
        = decode (digit (byte.toNat / 16) :: digit (byte.toNat % 16) :: encode bytes) := rfl
      _ = UInt8.ofNat (16 * (byte.toNat / 16) + byte.toNat % 16) :: decode (encode bytes) := by
          rw [decode, digitValue_digit (by omega), digitValue_digit (by omega)]
      _ = byte :: bytes := by
          rw [hbyte, ih]
          simp

/-- **What was read is written again**, in lower case. -/
lemma encode_decode (k : ℕ) (hlen : l.length = 2 * k) (h : ∀ c ∈ l, c ∈ hexDigits) :
    encode (decode l) = l.map Char.toLower := by
  induction k generalizing l with
  | zero =>
    obtain rfl := List.length_eq_zero_iff.mp hlen
    rfl
  | succ k ih =>
    match l, hlen, h with
    | hi :: lo :: rest, hlen, h =>
      obtain ⟨x, hx, hhi, hxc⟩ := digitValue_of_mem (h hi (by simp))
      obtain ⟨y, hy, hlo, hyc⟩ := digitValue_of_mem (h lo (by simp))
      have hrest := ih (l := rest) (by simp at hlen; omega) fun c hc => h c (by simp [hc])
      have hbyte : (UInt8.ofNat (16 * x + y)).toNat = 16 * x + y := by
        simp only [UInt8.toNat_ofNat']
        omega
      have hdiv : (16 * x + y) / 16 = x := by omega
      have hmod : (16 * x + y) % 16 = y := by omega
      calc encode (decode (hi :: lo :: rest))
          = encode (UInt8.ofNat (16 * x + y) :: decode rest) := by rw [decode, hhi, hlo]
        _ = digit ((16 * x + y) / 16) :: digit ((16 * x + y) % 16) :: encode (decode rest) := by
            simp only [encode, List.flatMap_cons, hbyte]
            rfl
        _ = (hi :: lo :: rest).map Char.toLower := by
            rw [hdiv, hmod, hxc, hyc, hrest]
            rfl

lemma encode_inj {bytes' : Bytes} : encode bytes = encode bytes' ↔ bytes = bytes' := by
  constructor
  · intro h
    rw [← decode_encode bytes, h, decode_encode]
  · rintro rfl
    rfl

/-- **A text of digits spells the bytes it is read as**, and no others. -/
lemma decode_eq_iff (k : ℕ) (hlen : l.length = 2 * k) (h : ∀ c ∈ l, c ∈ hexDigits) :
    bytes = decode l ↔ l.map Char.toLower = encode bytes := by
  rw [← encode_decode k hlen h, encode_inj]
  exact eq_comm

end HexText

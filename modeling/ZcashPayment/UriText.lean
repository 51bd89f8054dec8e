import Mathlib.Algebra.Ring.Nat
import Mathlib.Data.List.Nodup
import Mathlib.Tactic.Common

/-!
Bytes as the text of a URI.

Two encodings of bytes in characters: percent encoding, which writes the bytes it keeps as
characters and the others as two hexadecimal digits, and base64 without padding, which writes
three bytes as four characters of an alphabet. Each has a decoder that gives the bytes back.
-/

namespace UriText

abbrev Bytes := List UInt8

/-! ### Percent encoding -/

def upperHexDigits : List Char := "0123456789ABCDEF".toList

/-- `{byte:02X}` -/
def upperHex (b : UInt8) : List Char :=
  [upperHexDigits.getD (b.toNat / 16) '0', upperHexDigits.getD (b.toNat % 16) '0']

def percentByte (keep : UInt8 → Bool) (b : UInt8) : List Char :=
  if keep b then [Char.ofNat b.toNat] else '%' :: upperHex b

def percentEncode (keep : UInt8 → Bool) (bytes : Bytes) : List Char :=
  bytes.flatMap (percentByte keep)

def hexValue (c : Char) : Option ℕ := upperHexDigits.idxOf? c

/-- Characters below 256 stand for themselves, and `%` with two digits for the byte they name. -/
def percentDecode : List Char → Option Bytes
  | [] => some []
  | '%' :: h :: l :: rest => do
    let hi ← hexValue h
    let lo ← hexValue l
    let bytes ← percentDecode rest
    return UInt8.ofNat (hi * 16 + lo) :: bytes
  | '%' :: _ => none
  | c :: rest => if c.toNat < 256 then (percentDecode rest).map (UInt8.ofNat c.toNat :: ·) else none

variable {keep : UInt8 → Bool} {b : UInt8} {bytes : Bytes} {c : Char} {l rest : List Char}

lemma hexValue_getD {n : ℕ} (h : n < 16) : hexValue (upperHexDigits.getD n '0') = some n := by
  revert n
  decide

lemma toNat_ofNat_byte (b : UInt8) : (Char.ofNat b.toNat).toNat = b.toNat := by
  have hb : b.toNat < 256 := b.toNat_lt
  have hv : b.toNat.isValidChar := Or.inl (by omega)
  rw [Char.ofNat, dif_pos hv]
  rfl

/-- A kept byte is read as itself, unless it is kept as `%`. -/
lemma percentDecode_cons (hc : c ≠ '%') (hlt : c.toNat < 256) :
    percentDecode (c :: rest) = (percentDecode rest).map (UInt8.ofNat c.toNat :: ·) := by
  rw [percentDecode.eq_def]
  split
  · rename_i heq
    cases heq
  · rename_i heq
    exact absurd (List.cons.inj heq).1 hc
  · rename_i heq
    exact absurd (List.cons.inj heq).1 hc
  · rename_i heq
    cases heq
    rw [if_pos hlt]

lemma percentDecode_byte (hkeep : keep 37 = false) (b : UInt8) (rest : List Char) :
    percentDecode (percentByte keep b ++ rest) = (percentDecode rest).map (b :: ·) := by
  have hb : b.toNat < 256 := b.toNat_lt
  unfold percentByte
  split_ifs with hk
  · have hc : Char.ofNat b.toNat ≠ '%' := fun heq => by
      have h37 : b.toNat = 37 := by
        rw [← toNat_ofNat_byte b, heq]
        rfl
      have : b = 37 := UInt8.toNat_inj.mp h37
      rw [this, hkeep] at hk
      cases hk
    rw [List.singleton_append, percentDecode_cons hc (by rw [toNat_ofNat_byte]; exact hb),
      toNat_ofNat_byte, UInt8.ofNat_toNat]
  · have hbyte : UInt8.ofNat (b.toNat / 16 * 16 + b.toNat % 16) = b := by
      rw [show b.toNat / 16 * 16 + b.toNat % 16 = b.toNat by omega, UInt8.ofNat_toNat]
    simp only [upperHex, List.cons_append, List.nil_append, percentDecode,
      hexValue_getD (show b.toNat / 16 < 16 by omega),
      hexValue_getD (show b.toNat % 16 < 16 by omega), Option.bind_eq_bind, Option.bind_some,
      hbyte]
    cases percentDecode rest <;> rfl

/-- **Percent encoding round trip.** -/
lemma percentDecode_encode (hkeep : keep 37 = false) (bytes : Bytes) :
    percentDecode (percentEncode keep bytes) = some bytes := by
  induction bytes with
  | nil => rfl
  | cons b bytes ih =>
    rw [percentEncode, List.flatMap_cons, percentDecode_byte hkeep, ← percentEncode, ih]
    rfl

/-- The characters that are written: kept bytes, `%` and digits. -/
lemma mem_percentEncode (h : c ∈ percentEncode keep bytes) :
    (∃ b ∈ bytes, keep b = true ∧ c = Char.ofNat b.toNat) ∨ c = '%' ∨ c ∈ upperHexDigits := by
  obtain ⟨b, hb, hc⟩ := List.mem_flatMap.mp h
  unfold percentByte at hc
  split_ifs at hc with hk
  · exact Or.inl ⟨b, hb, hk, List.mem_singleton.mp hc⟩
  · have hdigit : ∀ n < 16, upperHexDigits.getD n '0' ∈ upperHexDigits := by decide
    have hbyte : b.toNat < 256 := b.toNat_lt
    rcases List.mem_cons.mp hc with rfl | hc
    · exact Or.inr (Or.inl rfl)
    · simp only [upperHex, List.mem_cons, List.not_mem_nil, or_false] at hc
      rcases hc with rfl | rfl
      · exact Or.inr (Or.inr (hdigit _ (by omega)))
      · exact Or.inr (Or.inr (hdigit _ (by omega)))

/-! ### Base64 -/

/-- The bits of a chunk of one to three bytes, filled up with zeros. -/
def chunkBits (chunk : Bytes) : ℕ :=
  (chunk.getD 0 0).toNat <<< 16 ||| (chunk.getD 1 0).toNat <<< 8 ||| (chunk.getD 2 0).toNat

/-- One character more than there are bytes. -/
def encodeChunk (alphabet : List Char) (chunk : Bytes) : List Char :=
  (List.range (chunk.length + 1)).map fun index =>
    alphabet.getD ((chunkBits chunk >>> (18 - 6 * index)) &&& 63) 'A'

def base64Encode (alphabet : List Char) : Bytes → List Char
  | b₀ :: b₁ :: b₂ :: rest => encodeChunk alphabet [b₀, b₁, b₂] ++ base64Encode alphabet rest
  | [] => []
  | chunk => encodeChunk alphabet chunk

/-- Groups of four values of six bits; the bits that are left over at the end are zero. -/
def sextetBytes : List ℕ → Option Bytes
  | [] => some []
  | a :: b :: c :: d :: rest => (sextetBytes rest).map
      ([UInt8.ofNat (a * 4 + b / 16), UInt8.ofNat (b % 16 * 16 + c / 4),
        UInt8.ofNat (c % 4 * 64 + d)] ++ ·)
  | [a, b] => if b % 16 = 0 then some [UInt8.ofNat (a * 4 + b / 16)] else none
  | [a, b, c] =>
    if c % 4 = 0 then some [UInt8.ofNat (a * 4 + b / 16), UInt8.ofNat (b % 16 * 16 + c / 4)]
    else none
  | [_] => none

def base64Decode (alphabet : List Char) (l : List Char) : Option Bytes := do
  sextetBytes (← l.mapM alphabet.idxOf?)

/-- An alphabet of 64 characters. -/
structure Alphabet (alphabet : List Char) : Prop where
  length : alphabet.length = 64
  nodup : alphabet.Nodup

/-- The values of six bits of a chunk. -/
def chunkSextets (chunk : Bytes) : List ℕ :=
  (List.range (chunk.length + 1)).map fun index => chunkBits chunk / 2 ^ (18 - 6 * index) % 64

def sextets : Bytes → List ℕ
  | b₀ :: b₁ :: b₂ :: rest => chunkSextets [b₀, b₁, b₂] ++ sextets rest
  | [] => []
  | chunk => chunkSextets chunk

/-- The bits of a chunk as a number. -/
lemma chunkBits_eq (chunk : Bytes) : chunkBits chunk =
    (chunk.getD 0 0).toNat * 65536 + (chunk.getD 1 0).toNat * 256 + (chunk.getD 2 0).toNat := by
  have h1 : (chunk.getD 1 0).toNat < 256 := (chunk.getD 1 0).toNat_lt
  have h2 : (chunk.getD 2 0).toNat < 2 ^ 8 := (chunk.getD 2 0).toNat_lt
  have hmid : (chunk.getD 1 0).toNat <<< 8 < 2 ^ 16 := by
    rw [Nat.shiftLeft_eq]
    omega
  have hjoin : (chunk.getD 0 0).toNat <<< 16 + (chunk.getD 1 0).toNat <<< 8 =
      ((chunk.getD 0 0).toNat * 256 + (chunk.getD 1 0).toNat) <<< 8 := by
    simp only [Nat.shiftLeft_eq]
    omega
  rw [chunkBits, ← Nat.shiftLeft_add_eq_or_of_lt hmid, hjoin, ← Nat.shiftLeft_add_eq_or_of_lt h2,
    Nat.shiftLeft_eq]
  omega

lemma encodeChunk_eq (alphabet : List Char) (chunk : Bytes) :
    encodeChunk alphabet chunk = (chunkSextets chunk).map fun n => alphabet.getD n 'A' := by
  unfold encodeChunk chunkSextets
  rw [List.map_map]
  refine List.map_congr_left fun index _ => ?_
  rw [Nat.shiftRight_eq_div_pow, show (63 : ℕ) = 2 ^ 6 - 1 from rfl,
    Nat.and_two_pow_sub_one_eq_mod]
  rfl

lemma base64Encode_eq (alphabet : List Char) (bytes : Bytes) :
    base64Encode alphabet bytes = (sextets bytes).map fun n => alphabet.getD n 'A' := by
  fun_induction base64Encode alphabet bytes with
  | case1 b₀ b₁ b₂ rest ih => rw [sextets, List.map_append, encodeChunk_eq, ih]
  | case2 => rfl
  | case3 chunk h1 h2 =>
    rw [encodeChunk_eq, sextets.eq_def]
    split
    · exact absurd rfl (h1 _ _ _ _)
    · exact absurd rfl h2
    · rfl

lemma chunkSextets_lt {chunk : Bytes} {n : ℕ} (h : n ∈ chunkSextets chunk) : n < 64 := by
  obtain ⟨index, -, rfl⟩ := List.mem_map.mp h
  exact Nat.mod_lt _ (by omega)

lemma sextets_lt {bytes : Bytes} {n : ℕ} (h : n ∈ sextets bytes) : n < 64 := by
  fun_induction sextets bytes with
  | case1 b₀ b₁ b₂ rest ih => exact (List.mem_append.mp h).elim chunkSextets_lt ih
  | case2 => cases h
  | case3 => exact chunkSextets_lt h

/-- The bytes are read off their bits again. -/
lemma sextetBytes_sextets (bytes : Bytes) : sextetBytes (sextets bytes) = some bytes := by
  have hbyte : ∀ {n : ℕ} {b : UInt8}, n = b.toNat → UInt8.ofNat n = b := by
    rintro n b rfl
    exact UInt8.ofNat_toNat
  fun_induction sextets bytes with
  | case1 b₀ b₁ b₂ rest ih =>
    have h0 : b₀.toNat < 256 := b₀.toNat_lt
    have h1 : b₁.toNat < 256 := b₁.toNat_lt
    have h2 : b₂.toNat < 256 := b₂.toNat_lt
    have hn : chunkBits [b₀, b₁, b₂] = b₀.toNat * 65536 + b₁.toNat * 256 + b₂.toNat :=
      chunkBits_eq _
    set n := chunkBits [b₀, b₁, b₂] with hdef
    have hs : chunkSextets [b₀, b₁, b₂] =
        [n / 2 ^ 18 % 64, n / 2 ^ 12 % 64, n / 2 ^ 6 % 64, n / 2 ^ 0 % 64] := rfl
    rw [hs]
    simp only [List.cons_append, List.nil_append, sextetBytes, ih, Option.map_some]
    rw [hbyte (b := b₀) (by omega), hbyte (b := b₁) (by omega), hbyte (b := b₂) (by omega)]
  | case2 => rfl
  | case3 chunk h1 h2 =>
    match chunk with
    | [] => exact absurd rfl h2
    | [b₀] =>
      have h0 : b₀.toNat < 256 := b₀.toNat_lt
      have hn : chunkBits [b₀] = b₀.toNat * 65536 + 0 * 256 + 0 := chunkBits_eq _
      set n := chunkBits [b₀] with hdef
      have hs : chunkSextets [b₀] = [n / 2 ^ 18 % 64, n / 2 ^ 12 % 64] := rfl
      rw [hs, sextetBytes, if_pos (by omega), hbyte (b := b₀) (by omega)]
    | [b₀, b₁] =>
      have h0 : b₀.toNat < 256 := b₀.toNat_lt
      have h1 : b₁.toNat < 256 := b₁.toNat_lt
      have hn : chunkBits [b₀, b₁] = b₀.toNat * 65536 + b₁.toNat * 256 + 0 := chunkBits_eq _
      set n := chunkBits [b₀, b₁] with hdef
      have hs : chunkSextets [b₀, b₁] = [n / 2 ^ 18 % 64, n / 2 ^ 12 % 64, n / 2 ^ 6 % 64] := rfl
      rw [hs, sextetBytes, if_pos (by omega), hbyte (b := b₀) (by omega),
        hbyte (b := b₁) (by omega)]
    | b₀ :: b₁ :: b₂ :: rest => exact absurd rfl (h1 _ _ _ _)

variable {alphabet : List Char}

lemma Alphabet.getD_eq (ha : Alphabet alphabet) {n : ℕ} (h : n < 64) :
    ∃ hlt : n < alphabet.length, alphabet.getD n 'A' = alphabet[n] := by
  have hlt : n < alphabet.length := by rw [ha.length]; exact h
  refine ⟨hlt, ?_⟩
  rw [List.getD_eq_getElem?_getD, List.getElem?_eq_getElem hlt, Option.getD_some]

lemma Alphabet.idxOf?_getD (ha : Alphabet alphabet) {n : ℕ} (h : n < 64) :
    alphabet.idxOf? (alphabet.getD n 'A') = some n := by
  obtain ⟨hlt, heq⟩ := ha.getD_eq h
  rw [heq, List.idxOf?_eq_some_iff]
  refine ⟨hlt, rfl, fun j hj hjn => ?_⟩
  have := (List.getElem_inj ha.nodup).mp hjn
  omega

/-- **Base64 round trip.** -/
lemma base64Decode_encode (ha : Alphabet alphabet) (bytes : Bytes) :
    base64Decode alphabet (base64Encode alphabet bytes) = some bytes := by
  have hread : ∀ ns : List ℕ, (∀ n ∈ ns, n < 64) →
      (ns.map fun n => alphabet.getD n 'A').mapM alphabet.idxOf? = some ns := by
    intro ns hns
    induction ns with
    | nil => rfl
    | cons n ns ih =>
      rw [List.map_cons, List.mapM_cons, ha.idxOf?_getD (hns n List.mem_cons_self),
        ih fun m hm => hns m (List.mem_cons_of_mem n hm)]
      rfl
  rw [base64Decode, base64Encode_eq, hread _ fun n hn => sextets_lt hn]
  exact sextetBytes_sextets bytes

lemma mem_base64Encode (ha : Alphabet alphabet) (h : c ∈ base64Encode alphabet bytes) :
    c ∈ alphabet := by
  rw [base64Encode_eq] at h
  obtain ⟨n, hn, rfl⟩ := List.mem_map.mp h
  obtain ⟨hlt, heq⟩ := ha.getD_eq (sextets_lt hn)
  rw [heq]
  exact List.getElem_mem hlt

end UriText

import ZcashPayment.UriText
import ZcashPayment.ZecAmounts

/-!
The payment URI.

`build_qr_text` writes the address and, after a question mark, the fields that are not blank. A
reader splits the text at the separators and decodes each field. None of the characters an
encoded field is written with is a separator, so the reader finds the fields that were given.
-/

namespace ZcashPayment

open DecimalText UriText

/-! ### build_qr_text -/

/-- `str::as_bytes` -/
def utf8Bytes (s : String) : Bytes := s.toList.flatMap String.utf8EncodeChar

def base64urlAlphabet : List Char :=
  "ABCDEFGHIJKLMNOPQRSTUVWXYZabcdefghijklmnopqrstuvwxyz0123456789-_".toList

def base64urlUnpadded (bytes : Bytes) : List Char := base64Encode base64urlAlphabet bytes

/-- `b'A'..=b'Z' | b'a'..=b'z' | b'0'..=b'9' | b'-' | b'_' | b'.' | b'~'` -/
def isUnreserved (b : UInt8) : Bool :=
  let n := b.toNat
  decide (65 ≤ n ∧ n ≤ 90 ∨ 97 ≤ n ∧ n ≤ 122 ∨ 48 ≤ n ∧ n ≤ 57 ∨ n = 45 ∨ n = 95 ∨ n = 46 ∨
    n = 126)

def encodeUriComponent (value : String) : List Char :=
  percentEncode isUnreserved (utf8Bytes value)

/-- A field that is more than blanks. -/
def nonBlank (value : Option String) : Option String :=
  value.filter fun v => trimSpace v ≠ []

/-- One parameter of the query, where its field is shown. -/
def queryParam (name : String) (encode : String → List Char) (value : Option String) :
    List (List Char) :=
  match nonBlank value with
  | some v => [name.toList ++ '=' :: encode v]
  | none => []

def buildQrText (address : String) (amount memo message : Option String) : String :=
  let query := queryParam "amount" encodeUriComponent amount ++
    queryParam "memo" (fun memo => base64urlUnpadded (utf8Bytes memo)) memo ++
    queryParam "message" encodeUriComponent message
  if query = [] then "zcash:" ++ address
  else "zcash:" ++ address ++ "?" ++ String.ofList (List.intercalate ['&'] query)

/-! ### Reading it -/

/-- Decode the text of a field, by the name of its parameter. -/
def decodeField (name text : List Char) : Option Bytes :=
  if name = "memo".toList then base64Decode base64urlAlphabet text
  else if name = "amount".toList ∨ name = "message".toList then percentDecode text
  else none

/-- One part between two `&`, split at its first `=`. -/
def readParam (part : List Char) : Option (String × Bytes) := do
  let (name, text) ← splitOnce '=' part
  return (String.ofList name, ← decodeField name text)

/-- The address, and the fields in the order they are written. -/
def readQrText (text : String) : Option (String × List (String × Bytes)) := do
  let rest ← ("zcash:".toList.isPrefixOf? text.toList)
  match splitOnce '?' rest with
  | none => return (String.ofList rest, [])
  | some (address, query) =>
    return (String.ofList address, ← (query.splitOn '&').mapM readParam)

/-- A field as it is expected: its name and its bytes, unless it is blank. -/
def givenField (name : String) (value : Option String) : List (String × Bytes) :=
  ((nonBlank value).map fun v => (name, utf8Bytes v)).toList

/-! ### What is written -/

variable {value amount memo message : Option String} {name : String} {encode : String → List Char}
  {c : Char}

lemma alphabet_base64url : Alphabet base64urlAlphabet where
  length := by decide
  nodup := by decide

lemma isUnreserved_separator : isUnreserved 37 = false ∧ isUnreserved 38 = false := by decide

lemma encodeUriComponent_notMem (v : String) : '&' ∉ encodeUriComponent v := by
  intro h
  rcases mem_percentEncode h with ⟨b, -, hk, hc⟩ | hc | hc
  · have h38 : b.toNat = 38 := by
      rw [← toNat_ofNat_byte b, ← hc]
      rfl
    have hb : b = 38 := UInt8.toNat_inj.mp h38
    rw [hb, isUnreserved_separator.2] at hk
    cases hk
  · revert hc
    decide
  · revert hc
    decide

lemma base64urlUnpadded_notMem (bytes : Bytes) : '&' ∉ base64urlUnpadded bytes := by
  intro h
  have hc := mem_base64Encode alphabet_base64url h
  revert hc
  decide

/-- A parameter that a reader finds: its name has no separator, its text no `&`, and the text is
decoded to the bytes of the field. -/
structure Readable (name : String) (encode : String → List Char) : Prop where
  name_eq : '=' ∉ name.toList
  name_and : '&' ∉ name.toList
  text : ∀ v, '&' ∉ encode v
  decoded : ∀ v, decodeField name.toList (encode v) = some (utf8Bytes v)

lemma readable_amount : Readable "amount" encodeUriComponent where
  name_eq := by decide
  name_and := by decide
  text := encodeUriComponent_notMem
  decoded v := percentDecode_encode isUnreserved_separator.1 _

lemma readable_memo : Readable "memo" fun memo => base64urlUnpadded (utf8Bytes memo) where
  name_eq := by decide
  name_and := by decide
  text _ := base64urlUnpadded_notMem _
  decoded v := base64Decode_encode alphabet_base64url _

lemma readable_message : Readable "message" encodeUriComponent where
  name_eq := by decide
  name_and := by decide
  text := encodeUriComponent_notMem
  decoded v := percentDecode_encode isUnreserved_separator.1 _

lemma Readable.notMem (h : Readable name encode) {part : List Char}
    (hp : part ∈ queryParam name encode value) : '&' ∉ part := by
  unfold queryParam at hp
  rcases hv : nonBlank value with _ | v <;> rw [hv] at hp
  · cases hp
  · rw [List.mem_singleton.mp hp, List.mem_append, List.mem_cons]
    rintro (hc | hc | hc)
    · exact h.name_and hc
    · cases hc
    · exact h.text v hc

lemma Readable.read (h : Readable name encode) (value : Option String) :
    (queryParam name encode value).mapM readParam = some (givenField name value) := by
  unfold queryParam givenField
  rcases nonBlank value with _ | v
  · rfl
  · have hpart : readParam (name.toList ++ '=' :: encode v) = some (name, utf8Bytes v) := by
      simp only [readParam, splitOnce_append h.name_eq, Option.bind_eq_bind, Option.bind_some,
        h.decoded v, String.ofList_toList]
      rfl
    rw [List.mapM_cons, hpart]
    rfl

/-- The parameters of a query: none has a separator in it, and each is read as its field. -/
lemma readParams_query (amount memo message : Option String) :
    let query := queryParam "amount" encodeUriComponent amount ++
      queryParam "memo" (fun memo => base64urlUnpadded (utf8Bytes memo)) memo ++
      queryParam "message" encodeUriComponent message
    (∀ part ∈ query, '&' ∉ part) ∧
      query.mapM readParam = some (givenField "amount" amount ++ givenField "memo" memo ++
        givenField "message" message) := by
  intro query
  refine ⟨fun part hp => ?_, ?_⟩
  · simp only [query, List.mem_append] at hp
    rcases hp with (hp | hp) | hp
    · exact readable_amount.notMem hp
    · exact readable_memo.notMem hp
    · exact readable_message.notMem hp
  · rw [List.mapM_append, List.mapM_append, readable_amount.read, readable_memo.read,
      readable_message.read]
    rfl

/-- What is read of an address and a query whose parameters are read. -/
lemma readQrText_of_params {address : String} (haddress : '?' ∉ address.toList)
    {query : List (List Char)} {fields : List (String × Bytes)} (hand : ∀ part ∈ query, '&' ∉ part)
    (hread : query.mapM readParam = some fields) :
    readQrText (if query = [] then "zcash:" ++ address
      else "zcash:" ++ address ++ "?" ++ String.ofList (List.intercalate ['&'] query)) =
        some (address, fields) := by
  have hstrip : ∀ rest : List Char,
      "zcash:".toList.isPrefixOf? ("zcash:".toList ++ rest) = some rest :=
    fun rest => List.isPrefixOf?_eq_some_iff_append_eq.mpr rfl
  split_ifs with hnil
  · rw [hnil] at hread
    have hfields := Option.some.inj hread
    rw [← hfields, readQrText, String.toList_append, hstrip]
    simp only [Option.bind_eq_bind, Option.bind_some, splitOnce_none haddress,
      String.ofList_toList]
    rfl
  · have hq : "?".toList = ['?'] := by decide
    rw [readQrText]
    simp only [String.toList_append, String.toList_ofList, List.append_assoc, hstrip, hq,
      List.singleton_append, Option.bind_eq_bind, Option.bind_some, splitOnce_append haddress,
      List.splitOn_intercalate '&' hand hnil, hread, String.ofList_toList]
    rfl

/-- **The payment URI decodes to what was requested**: the address and the fields that are not
blank, each once and in order, byte for byte. -/
theorem uri_decodes (address : String) (haddress : '?' ∉ address.toList)
    (amount memo message : Option String) :
    readQrText (buildQrText address amount memo message) =
      some (address, givenField "amount" amount ++ givenField "memo" memo ++
        givenField "message" message) := by
  obtain ⟨hand, hread⟩ := readParams_query amount memo message
  exact readQrText_of_params haddress hand hread

/-- A message that looks like a parameter. -/
theorem uri_decodes_hostile_message :
    readQrText (buildQrText "u1" (some "0.5") (some " ") (some "&amount=9")) =
      some ("u1", givenField "amount" (some "0.5") ++ givenField "memo" (some " ") ++
        givenField "message" (some "&amount=9")) :=
  uri_decodes "u1" (by decide) (some "0.5") (some " ") (some "&amount=9")

end ZcashPayment

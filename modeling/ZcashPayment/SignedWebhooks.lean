import ZcashPayment.AddressAllocation
import ZcashPayment.DecimalPoint
import ZcashPayment.HexText
import ZcashPayment.PaymentUri
import ZcashPayment.PhpZcash
import ZcashPayment.WebhookBodies

/-!
Signed webhooks, from the header the service sends to what a shop reads.

The service signs the bytes of a body and sends the digest in hexadecimal. The plugins in
TypeScript, the plugins in PHP and the Node client look at the header before they look at the
body, each with a `trim` and a pattern of its own. HMAC-SHA256 is a function from a key and a
message to 32 bytes, and a JSON parser one from bytes to a value.
-/

namespace ZcashPayment

open Allocation (hexString)
open DecimalText

/-- HMAC-SHA256 of a message under a key. -/
abbrev Hmac := Bytes → Bytes → Fin 32 → UInt8

def Hmac.digest (hmac : Hmac) (secret : String) (body : Bytes) : Bytes :=
  List.ofFn (hmac (utf8Bytes secret) body)

/-- `hash_hmac('sha256', …)`, and what the service sends. -/
def signBody (hmac : Hmac) (secret : String) (body : Bytes) : String :=
  hexString (hmac.digest secret body)

/-- `/^[0-9a-f]{64}$/` -/
def isLowerHex64 (l : List Char) : Bool := l.length = 64 && l.all (HexText.lowerDigits.contains ·)

/-- `/^[0-9a-fA-F]{64}$/` -/
def isHex64 (l : List Char) : Bool := l.length = 64 && l.all (HexText.hexDigits.contains ·)

/-- Why a request is turned away: status 401 or 400. -/
inductive Refusal | invalidSignature | invalidPayload
  deriving DecidableEq, Repr

/-! ### The plugins in TypeScript -/

/-- `signature` is the header where it is a string. Outside ASCII `toLowerCase` never gives a
hexadecimal digit, so only ASCII letters are lowered. -/
def verifySignature (hmac : Hmac) (rawBody : Bytes) (signature : Option String)
    (secret : String) : Bool :=
  match signature with
  | none => false
  | some signature =>
    if secret = "" then false
    else
      let sig := (trim signature.toList).map Char.toLower
      if !isLowerHex64 sig then false
      else hmac.digest secret rawBody = HexText.decode sig

/-- How the webhook routes begin. -/
def receiveWebhook (hmac : Hmac) (parse : Bytes → Option Json) (secret : String) (raw : Bytes)
    (signature : Option String) : Except Refusal Observation :=
  if !verifySignature hmac raw signature secret then .error .invalidSignature
  else
    match (parse raw).bind parseObservation with
    | none => .error .invalidPayload
    | some observation => .ok observation

/-! ### The Node client -/

namespace Node

/-- A client cannot be made without a secret. -/
structure Client where
  webhookSecret : String
  required : webhookSecret ≠ ""

inductive WebhookError
  | signature
  | payload (message : String)
  deriving DecidableEq, Repr

def decodeSignature (signature : Option String) : Option Bytes :=
  match signature with
  | none => none
  | some signature =>
    if signature = "" ∨ isHex64 (trim signature.toList) = false then none
    else some (HexText.decode (trim signature.toList))

def Client.verifyWebhook (client : Client) (hmac : Hmac) (parse : Bytes → Option Json)
    (rawBody : Bytes) (signature : Option String) : Except WebhookError PaymentObservation :=
  let expected := hmac.digest client.webhookSecret rawBody
  match decodeSignature signature with
  | none => .error .signature
  | some provided =>
    if expected ≠ provided then .error .signature
    else
      match parse rawBody with
      | none => .error (.payload "webhook body is not JSON")
      | some value =>
        match parseObservation value with
        | .error message => .error (.payload message)
        | .ok observation => .ok observation

end Node

/-! ### The plugins in PHP -/

namespace Php

def verifySignature (hmac : Hmac) (rawBody : Bytes) (signature : Option String)
    (secret : String) : Bool :=
  match signature with
  | none => false
  | some signature =>
    if secret = "" then false
    else
      let sig := (trim signature.toList).map Char.toLower
      -- `$` also matches before a last line feed.
      let matched := if sig.getLast? = some '\n' then sig.dropLast else sig
      if !isLowerHex64 matched then false
      else signBody hmac secret rawBody = String.ofList sig

/-- `decode_json` refuses what is no object, and an object whose `received_by_confirmations` is no
array. -/
def checkedJson : Json → Option Json
  | .object fields =>
    match Json.field (.object fields) "received_by_confirmations" with
    | none | some (.array _) => some (.object fields)
    | some _ => none
  | _ => none

def decodeJson (parse : Bytes → Option Json) (raw : Bytes) : Option Json :=
  (parse raw).bind checkedJson

def receiveWebhook (hmac : Hmac) (parse : Bytes → Option Json) (secret : String) (raw : Bytes)
    (signature : Option String) : Except Refusal Observation :=
  if !verifySignature hmac raw signature secret then .error .invalidSignature
  else
    match (decodeJson parse raw).bind parseObservation with
    | none => .error .invalidPayload
    | some observation => .ok observation

end Php

/-! ### What a header says -/

variable {hmac : Hmac} {secret : String} {raw : Bytes} {l : List Char}

/-- A header that spells the digest, with what is stripped around it. -/
def Spells (hmac : Hmac) (secret : String) (raw : Bytes) (strip : List Char → List Char)
    (header : Option String) : Prop :=
  ∃ text, header = some text ∧
    (strip text.toList).map Char.toLower = (signBody hmac secret raw).toList

lemma toList_hexString (bytes : Bytes) : (hexString bytes).toList = HexText.encode bytes := by
  rw [hexString, String.toList_ofList]
  rfl

lemma length_signBody : (signBody hmac secret raw).toList.length = 64 := by
  simp [signBody, toList_hexString, Hmac.digest]

lemma mem_signBody {c : Char} (h : c ∈ (signBody hmac secret raw).toList) :
    c ∈ HexText.lowerDigits := by
  rw [signBody, toList_hexString] at h
  exact HexText.mem_encode h

lemma isLowerHex64_iff : isLowerHex64 l = true ↔
    l.length = 64 ∧ ∀ c ∈ l, c ∈ HexText.lowerDigits := by
  simp [isLowerHex64]

lemma isHex64_iff : isHex64 l = true ↔ l.length = 64 ∧ ∀ c ∈ l, c ∈ HexText.hexDigits := by
  simp [isHex64]

lemma map_toLower_of_lower (h : ∀ c ∈ l, c ∈ HexText.lowerDigits) : l.map Char.toLower = l := by
  calc l.map Char.toLower = l.map id :=
        List.map_congr_left fun c hc => (HexText.toLower_of_mem (h c hc)).1
    _ = l := List.map_id l

/-- The digest as bytes and as text. -/
lemma digest_eq_decode_iff (hlen : l.length = 64) (h : ∀ c ∈ l, c ∈ HexText.hexDigits) :
    hmac.digest secret raw = HexText.decode l ↔
      l.map Char.toLower = (signBody hmac secret raw).toList := by
  rw [signBody, toList_hexString]
  exact HexText.decode_eq_iff 32 hlen h

lemma verifySignature_iff {header : Option String} :
    verifySignature hmac raw header secret = true ↔
      secret ≠ "" ∧ Spells hmac secret raw trim header := by
  rcases header with _ | text
  · simp [verifySignature, Spells]
  simp only [Spells, Option.some.injEq, exists_eq_left']
  unfold verifySignature
  by_cases hs : secret = ""
  · simp [hs]
  dsimp only
  rw [if_neg hs]
  generalize (trim text.toList).map Char.toLower = sig
  have hiff : isLowerHex64 sig = true →
      (hmac.digest secret raw = HexText.decode sig ↔
        sig = (signBody hmac secret raw).toList) := by
    intro hhex
    obtain ⟨hlen, hall⟩ := isLowerHex64_iff.mp hhex
    rw [digest_eq_decode_iff hlen fun c hc => (HexText.toLower_of_mem (hall c hc)).2,
      map_toLower_of_lower hall]
  constructor
  · intro h
    have hhex : isLowerHex64 sig = true := by
      by_contra hn
      simp [hn] at h
    simp only [hhex, Bool.not_true, Bool.false_eq_true, if_false, decide_eq_true_eq] at h
    exact ⟨hs, (hiff hhex).mp h⟩
  · rintro ⟨-, h⟩
    have hhex : isLowerHex64 sig = true :=
      isLowerHex64_iff.mpr ⟨h ▸ length_signBody, fun c hc => mem_signBody (h ▸ hc)⟩
    simp only [hhex, Bool.not_true, Bool.false_eq_true, if_false, decide_eq_true_eq]
    exact (hiff hhex).mpr h

lemma Php.verifySignature_iff {header : Option String} :
    Php.verifySignature hmac raw header secret = true ↔
      secret ≠ "" ∧ Spells hmac secret raw Php.trim header := by
  rcases header with _ | text
  · simp [Php.verifySignature, Spells]
  simp only [Spells, Option.some.injEq, exists_eq_left']
  unfold Php.verifySignature
  by_cases hs : secret = ""
  · simp [hs]
  dsimp only
  rw [if_neg hs]
  generalize (Php.trim text.toList).map Char.toLower = sig
  constructor
  · intro h
    refine ⟨hs, ?_⟩
    generalize (if sig.getLast? = some '\n' then sig.dropLast else sig) = matched at h
    split at h
    · cases h
    · rw [decide_eq_true_eq] at h
      rw [h, String.toList_ofList]
  · rintro ⟨-, h⟩
    have hall : ∀ c ∈ sig, c ∈ HexText.lowerDigits := fun c hc => mem_signBody (h ▸ hc)
    have hlast : sig.getLast? ≠ some '\n' := by
      intro heq
      exact absurd (hall _ (List.mem_of_getLast? heq)) (by decide)
    have hhex : isLowerHex64 sig = true := isLowerHex64_iff.mpr ⟨h ▸ length_signBody, hall⟩
    rw [if_neg hlast, hhex]
    simp only [Bool.not_true, Bool.false_eq_true, if_false, decide_eq_true_eq]
    rw [h, String.ofList_toList]

lemma Node.decodeSignature_iff {header : Option String} :
    Node.decodeSignature header = some (hmac.digest secret raw) ↔
      Spells hmac secret raw trim header := by
  rcases header with _ | text
  · simp [Node.decodeSignature, Spells]
  simp only [Spells, Option.some.injEq, exists_eq_left']
  unfold Node.decodeSignature
  dsimp only
  constructor
  · intro h
    split at h
    · cases h
    · next hn =>
      obtain ⟨hlen, hall⟩ := isHex64_iff.mp (Bool.not_eq_false _ ▸ (not_or.mp hn).2)
      exact (digest_eq_decode_iff hlen hall).mp (Option.some.inj h).symm
  · intro h
    have hlen : (trim text.toList).length = 64 := by
      rw [← List.length_map (f := Char.toLower), h, length_signBody]
    have hall : ∀ c ∈ trim text.toList, c ∈ HexText.hexDigits := fun c hc =>
      HexText.mem_of_toLower_mem (mem_signBody (h ▸ List.mem_map_of_mem hc))
    have hne : text ≠ "" := by
      rintro rfl
      cases hlen
    have hhex := isHex64_iff.mpr ⟨hlen, hall⟩
    rw [if_neg (by simp [hne, hhex]), (digest_eq_decode_iff hlen hall).mpr h]

/-- The header of another body or another secret. -/
lemma spells_signBody {strip : List Char → List Char} {other : String} {body : Bytes}
    (hstrip : ∀ l, (∀ c ∈ l, c ∈ HexText.lowerDigits) → strip l = l) :
    Spells hmac secret raw strip (some (signBody hmac other body)) ↔
      hmac.digest other body = hmac.digest secret raw := by
  simp only [Spells, Option.some.injEq, exists_eq_left']
  rw [hstrip _ fun c hc => mem_signBody hc, map_toLower_of_lower fun c hc => mem_signBody hc,
    signBody, signBody, toList_hexString, toList_hexString, HexText.encode_inj]

lemma trim_lowerDigits (h : ∀ c ∈ l, c ∈ HexText.lowerDigits) : trim l = l := by
  have hblank : HexText.lowerDigits.all (fun c => !isBlank c) = true := by decide
  exact trim_eq_self fun c hc => by simpa using List.all_eq_true.mp hblank c (h c hc)

lemma Php.trim_lowerDigits (h : ∀ c ∈ l, c ∈ HexText.lowerDigits) : Php.trim l = l := by
  have hblank : HexText.lowerDigits.all (fun c => !Php.isBlank c) = true := by decide
  exact trimBy_eq_self fun c hc => by simpa using List.all_eq_true.mp hblank c (h c hc)

lemma Node.verifyWebhook_iff {client : Node.Client} {parse : Bytes → Option Json}
    {header : Option String} :
    client.verifyWebhook hmac parse raw header ≠ .error .signature ↔
      Spells hmac client.webhookSecret raw trim header := by
  rw [← Node.decodeSignature_iff]
  unfold Node.Client.verifyWebhook
  dsimp only
  rcases Node.decodeSignature header with _ | provided
  · simp
  · by_cases heq : hmac.digest client.webhookSecret raw = provided
    · subst heq
      simp only [ne_eq, not_true_eq_false, if_false, iff_true]
      rcases parse raw with _ | value
      · simp
      · dsimp only
        cases Node.parseObservation value <;> simp
    · simp only [ne_eq, heq, not_false_iff, if_true, not_true_eq_false, Option.some.injEq,
        false_iff]
      exact fun h => heq h.symm

/-! ### Which requests are taken -/

/-- **A signature is checked alike** by every receiver, with any secret, body and header: a header
is accepted where it spells the digest of the body under the shop's own secret, letter case and
blanks around it aside, and no other way; without a secret nothing is. -/
theorem signature_accepted_iff (hmac : Hmac) (secret : String) (raw : Bytes)
    (header : Option String) :
    (verifySignature hmac raw header secret = true ↔
      secret ≠ "" ∧ Spells hmac secret raw trim header) ∧
    (Php.verifySignature hmac raw header secret = true ↔
      secret ≠ "" ∧ Spells hmac secret raw Php.trim header) ∧
    (∀ (client : Node.Client) parse,
      client.verifyWebhook hmac parse raw header ≠ .error .signature ↔
        Spells hmac client.webhookSecret raw trim header) ∧
    (∀ other body, Spells hmac secret raw trim (some (signBody hmac other body)) ↔
      hmac.digest other body = hmac.digest secret raw) ∧
    ∀ other body, Spells hmac secret raw Php.trim (some (signBody hmac other body)) ↔
      hmac.digest other body = hmac.digest secret raw := by
  refine ⟨verifySignature_iff, Php.verifySignature_iff, ?_, ?_, ?_⟩
  · exact fun client parse => Node.verifyWebhook_iff
  · exact fun other body => spells_signBody fun _ => trim_lowerDigits
  · exact fun other body => spells_signBody fun _ => Php.trim_lowerDigits

/-! ### What PHP reads of a posted body -/

namespace Php

lemma isBlank_of_isDigit {c : Char} (h : c.isDigit = true) : Php.isBlank c = false := by
  have hrange : 48 ≤ c.toNat ∧ c.toNat ≤ 57 := by
    simp only [Char.isDigit, Bool.and_eq_true, decide_eq_true_eq] at h
    exact h
  have hne : ∀ d : Char, d.toNat < 48 → c ≠ d := by
    rintro d hd rfl
    omega
  simp only [Php.isBlank, hne ' ' (by decide), hne '\t' (by decide), hne '\n' (by decide),
    hne '\r' (by decide), hne (Char.ofNat 0) (by decide), hne (Char.ofNat 11) (by decide),
    decide_false, Bool.or_self]

lemma text_of_field {body : Json} {key s : String} (h : body.field key = some (.string s))
    (hs : trim s.toList ≠ []) : text body key = some s := by
  simp [text, h, Json.string?, Option.filter, hs]

/-- An amount has nothing to strip. -/
lemma trim_formatZatAsZec (z : ℕ) :
    trim (formatZatAsZec z).toList = DecimalText.trim (formatZatAsZec z).toList := by
  have hchars : ∀ c ∈ (formatZatAsZec z).toList, c.isDigit = true ∨ c = '.' := by
    rw [toList_formatZatAsZec]
    intro c hc
    rcases List.mem_append.mp hc with h | h
    · exact .inl (allDigits_digits _ c h)
    · rcases List.mem_cons.mp h with rfl | h
      · exact .inr rfl
      · exact .inl (allDigits_fractionDigits z c h)
  apply trimBy_congr
  intro c hc
  rcases hchars c hc with h | rfl
  · rw [isBlank_of_isDigit h, DecimalText.isBlank_of_isDigit h]
  · rfl

/-- The two readers differ only in what they strip. -/
lemma zecToZat_eq {text : String} (h : trim text.toList = DecimalText.trim text.toList) :
    zecToZat text = ZcashPayment.zecToZat text := by
  unfold zecToZat ZcashPayment.zecToZat
  generalize trim text.toList = stripped at h ⊢
  subst h
  rfl

lemma zecToZat_formatZatAsZec (z : ℕ) :
    zecToZat (formatZatAsZec z) = ZcashPayment.zecToZat (formatZatAsZec z) :=
  zecToZat_eq (trim_formatZatAsZec z)

/-- Where no depth tells the two readers apart, the last one does not. -/
lemma lastDepth_eq {depths : List Json}
    (h : ∀ d ∈ depths, d.string?.bind zecToZat = d.string?.bind ZcashPayment.zecToZat)
    (settled : Option ℕ) : lastDepth settled depths = ZcashPayment.lastDepth settled depths := by
  induction depths generalizing settled with
  | nil => rfl
  | cons d depths ih =>
    have ih := ih fun e he => h e (List.mem_cons_of_mem d he)
    rw [lastDepth, ZcashPayment.lastDepth, h d List.mem_cons_self]
    rcases d.string?.bind ZcashPayment.zecToZat with _ | zat
    · rfl
    · exact ih (some zat)

lemma lastDepth_amountsJson (zats : List ℕ) (settled : Option ℕ) :
    lastDepth settled (amountsJson zats) = ZcashPayment.lastDepth settled (amountsJson zats) := by
  refine lastDepth_eq (fun d hd => ?_) settled
  obtain ⟨z, -, rfl⟩ := List.mem_map.mp hd
  simp only [Json.string?, Option.bind_some]
  exact zecToZat_formatZatAsZec z

lemma settledZat_amountsJson (zats : Option (List ℕ)) (total : ℕ) :
    settledZat (zats.map fun l => Json.array (amountsJson l)) total =
      ZcashPayment.settledZat (zats.map fun l => Json.array (amountsJson l)) total := by
  cases zats with
  | none => rfl
  | some l => simp only [settledZat, ZcashPayment.settledZat, Option.map_some,
      lastDepth_amountsJson]

lemma matchVersion_eventId {e : EventId} (h : e.stateVersion ≤ intMax) :
    matchVersion e.text = some e.stateVersion := by
  have hlast : e.text.toList.getLast? ≠ some '\n' := by
    rw [toList_eventId]
    obtain ⟨c, hc⟩ : ∃ c, (digits e.stateVersion).getLast? = some c :=
      Option.isSome_iff_exists.mp (by simp [digits_ne_nil])
    have hdigit := allDigits_digits _ c (List.mem_of_getLast? hc)
    rw [List.getLast?_append, List.getLast?_cons, List.getLast?_cons, hc]
    rintro heq
    cases heq
    cases hdigit
  have hjs := ZcashPayment.matchVersion_eventId e
  unfold ZcashPayment.matchVersion at hjs
  unfold matchVersion
  dsimp only at hjs ⊢
  rw [if_neg hlast]
  split at hjs
  · next hv =>
    rw [if_pos hv, Option.some.inj hjs, min_eq_left h]
  · cases hjs

end Php

/-! ### What is posted, all receivers read alike -/

/-- What the service posts: the address is more than blanks to every receiver. -/
structure Postable (eventId : EventId) (address : String) (total : ℕ) (depths : Option (List ℕ)) :
    Prop where
  addressId : eventId.addressId < 2 ^ 63
  version : eventId.stateVersion < 2 ^ 53
  shown : trim address.toList ≠ []
  shownInPhp : Php.trim address.toList ≠ []
  length : Node.utf16Length address ≤ 1024
  total : total < 10 ^ 18
  depths : ∀ l ∈ depths, 1 ≤ l.length ∧ l.length ≤ 101 ∧ ∀ z ∈ l, z < 10 ^ 18

section

variable {body : Json} {eventId : EventId} {address : String} {total : ℕ}
  {depths : Option (List ℕ)} {now : Instant}

/-- The array as the body has it. -/
lemma Posted.amounts
    (h : Posted body eventId address total (depths.map (List.map Nat.cast)) now.rfc3339) :
    body.field "received_by_confirmations" =
      depths.map fun l => Json.array (amountsJson l) := by
  rw [h.depths]
  simp only [Option.map_map, Function.comp_def, formatZatArray, amountsJson, List.map_map]

lemma Postable.safe (hp : Postable eventId address total depths) :
    eventId.stateVersion ≤ maxSafeInteger := by
  have := hp.version
  unfold maxSafeInteger
  omega

/-- What the plugins in TypeScript read. -/
def Postable.observation (hp : Postable eventId address total depths) : Observation where
  eventId := eventId.text
  address
  totalReceived := formatZatAsZec total
  totalZat := total
  settledZat := (depths.bind List.getLast?).getD total
  stateVersion := eventId.stateVersion
  safe := hp.safe

/-- What the plugins in PHP read. -/
def Postable.phpObservation (_ : Postable eventId address total depths) : Php.Observation where
  eventId := eventId.text
  address
  totalReceived := formatZatAsZec total
  totalZat := total
  settledZat := (depths.bind List.getLast?).getD total
  stateVersion := eventId.stateVersion

/-- What the Node client returns: the posted strings. -/
def Postable.nodeObservation (_ : Postable eventId address total depths) (now : Instant) :
    Node.PaymentObservation where
  eventId := eventId.text
  paymentSource := "zcash"
  address
  totalReceived := formatZatAsZec total
  observedAt := now.rfc3339
  receivedByConfirmations := depths.map fun l => l.map fun z : ℕ => formatZatAsZec z

lemma parseObservation_posted
    (h : Posted body eventId address total (depths.map (List.map Nat.cast)) now.rfc3339)
    (hp : Postable eventId address total depths) :
    parseObservation body = some hp.observation := by
  have hevent := plain_eventId (e := eventId) hp.addressId hp.version
  have htext := plain_formatZatAsZec hp.total
  have hsource : body.text "payment_source" = some "zcash" := text_of_field h.source (by decide)
  simp only [parseObservation, text_of_field h.event hevent.trim_ne, hsource,
    text_of_field h.address hp.shown, text_of_field h.total htext.trim_ne,
    text_of_field h.time (plain_rfc3339 now).trim_ne, matchVersion_eventId,
    zecToZat_formatZatAsZec hp.total, h.amounts, settledZat_amounts hp.depths,
    Option.bind_eq_bind, Option.bind_some, dif_pos hp.safe, guard, if_true, Option.pure_def]
  rfl

/-- The plugins in PHP read the same. -/
lemma Php.parseObservation_posted
    (h : Posted body eventId address total (depths.map (List.map Nat.cast)) now.rfc3339)
    (hp : Postable eventId address total depths) :
    Php.parseObservation body = some hp.phpObservation := by
  have hevent : Php.trim eventId.text.toList ≠ [] :=
    trimBy_ne_nil (c := 'z') (by simp [toList_eventId]) rfl
  have htext : Php.trim (formatZatAsZec total).toList ≠ [] := by
    rw [Php.trim_formatZatAsZec]
    exact (plain_formatZatAsZec hp.total).trim_ne
  have htime : Php.trim now.rfc3339.toList ≠ [] :=
    trimBy_ne_nil (c := 'T') (by simp [Instant.rfc3339, Instant.dateTimeText]) rfl
  have hsource : Php.text body "payment_source" = some "zcash" :=
    Php.text_of_field h.source (by decide)
  have hversion : eventId.stateVersion ≤ Php.intMax := by
    have := hp.version
    unfold Php.intMax
    omega
  have htotal : Php.zecToZat (formatZatAsZec total) = some total := by
    rw [Php.zecToZat_formatZatAsZec, ZcashPayment.zecToZat_formatZatAsZec hp.total]
  have hsettled := (Php.settledZat_amountsJson depths total).trans (settledZat_amounts hp.depths)
  simp only [Php.parseObservation, Php.text_of_field h.event hevent, hsource,
    Php.text_of_field h.address hp.shownInPhp, Php.text_of_field h.total htext,
    Php.text_of_field h.time htime, Php.matchVersion_eventId hversion, htotal, h.amounts, hsettled,
    Option.bind_eq_bind, Option.bind_some, guard, if_true, Option.pure_def]
  rfl

/-- The Node client reads the strings. -/
lemma Node.parseObservation_posted
    (h : Posted body eventId address total (depths.map (List.map Nat.cast)) now.rfc3339)
    (hp : Postable eventId address total depths) :
    Node.parseObservation body = .ok (hp.nodeObservation now) := by
  have hevent := plain_eventId (e := eventId) hp.addressId hp.version
  have htext := plain_formatZatAsZec hp.total
  have htime := plain_rfc3339 now
  have hrecord : Node.isRecord body = true := by
    have he := h.event
    cases body <;> first | rfl | exact absurd he (by simp [Json.field])
  have hlength : Node.utf16Length (formatZatAsZec total) ≤ 64 :=
    htext.utf16Length_le.trans (by norm_num)
  simp only [Node.parseObservation, hrecord,
    requiredString_of_field h.event hevent.trim_ne hevent.utf16Length_le,
    requiredString_of_field (n := 32) h.source (by decide) (by decide),
    requiredString_of_field h.address hp.shown hp.length,
    requiredString_of_field h.total htext.trim_ne hlength,
    requiredString_of_field h.time htime.trim_ne htime.utf16Length_le, h.amounts,
    optionalAmounts_amounts hp.depths]
  rfl

/-- The last amount of the array is what is settled. -/
lemma Postable.settled_of_mem (hp : Postable eventId address total depths) {l : List String}
    (hl : l ∈ (hp.nodeObservation now).receivedByConfirmations) :
    l.getLast?.bind zecToZat = some hp.observation.settledZat := by
  obtain ⟨zats, hzats, rfl⟩ := Option.map_eq_some_iff.mp hl
  obtain ⟨hpos, -, hz⟩ := hp.depths zats hzats
  have hne : zats ≠ [] := List.ne_nil_of_length_pos hpos
  have hlast := List.getLast?_eq_some_getLast hne
  have hsettled : hp.observation.settledZat = zats.getLast hne := by
    show (depths.bind List.getLast?).getD total = _
    rw [hzats, Option.bind_some, hlast, Option.getD_some]
  rw [hsettled, List.getLast?_map, hlast, Option.map_some, Option.bind_some]
  exact zecToZat_formatZatAsZec (hz _ (List.getLast_mem hne))

lemma Php.checkedJson_eq {l : Option (List Json)}
    (hobject : ∃ key value, body.field key = some value)
    (h : body.field "received_by_confirmations" = l.map Json.array) :
    Php.checkedJson body = some body := by
  obtain ⟨key, value, hvalue⟩ := hobject
  cases body with
  | object fields =>
    unfold Php.checkedJson
    dsimp only
    rw [h]
    cases l <;> rfl
  | _ => exact absurd hvalue (by simp [Json.field])

lemma Php.decodeJson_posted {parse : Bytes → Option Json} (hraw : parse raw = some body)
    (h : Posted body eventId address total (depths.map (List.map Nat.cast)) now.rfc3339) :
    Php.decodeJson parse raw = some body := by
  unfold Php.decodeJson
  rw [hraw]
  exact Php.checkedJson_eq (l := depths.map amountsJson) ⟨_, _, h.event⟩
    (h.amounts.trans (Option.map_map _ _ _).symm)

end

/-- A body that can be read is read, or its signature is refused. -/
lemma receiveWebhook_eq {parse : Bytes → Option Json} {header : Option String} {o : Observation}
    (h : (parse raw).bind parseObservation = some o) :
    receiveWebhook hmac parse secret raw header =
      if verifySignature hmac raw header secret then .ok o else .error .invalidSignature := by
  unfold receiveWebhook
  rw [h]
  cases verifySignature hmac raw header secret <;> rfl

lemma Php.receiveWebhook_eq {parse : Bytes → Option Json} {header : Option String}
    {p : Php.Observation} (h : (Php.decodeJson parse raw).bind Php.parseObservation = some p) :
    Php.receiveWebhook hmac parse secret raw header =
      if Php.verifySignature hmac raw header secret then .ok p else .error .invalidSignature := by
  unfold Php.receiveWebhook
  rw [h]
  cases Php.verifySignature hmac raw header secret <;> rfl

lemma Node.verifyWebhook_eq {client : Node.Client} {parse : Bytes → Option Json}
    {header : Option String} {value : Json} {q : Node.PaymentObservation}
    (hparse : parse raw = some value) (h : Node.parseObservation value = .ok q) :
    client.verifyWebhook hmac parse raw header =
      if Node.decodeSignature header = some (hmac.digest client.webhookSecret raw) then .ok q
      else .error .signature := by
  unfold Node.Client.verifyWebhook
  dsimp only
  rcases Node.decodeSignature header with _ | provided
  · rfl
  · by_cases heq : hmac.digest client.webhookSecret raw = provided
    · simp [heq, hparse, h]
    · have hne : some provided ≠ some (hmac.digest client.webhookSecret raw) := fun hs =>
        heq (Option.some.inj hs).symm
      simp [heq, hne]

/-- **What is posted, all receivers read alike.** With the header the service sends, the plugins in
TypeScript and in PHP and the Node client take the body of a queued event and find the same
address, version, total and settled amount in it; with any other header they find the same or turn
the request away. -/
theorem posted_webhook_is_read_alike (hmac : Hmac) (parse : Bytes → Option Json)
    (fromStr : String → Option (List ℤ)) (client : Node.Client) (eventId : EventId)
    (address : String) (total : ℕ) (depths : Option (List ℕ)) (now : Instant) (raw : Bytes)
    (hp : Postable eventId address total depths)
    (hjson : ∀ l ∈ depths.map (List.map Nat.cast), fromStr (zatArrayText l) = some l)
    (hraw : parse raw = some (postedBody fromStr eventId address total
      (depths.map (List.map Nat.cast)) now)) :
    let secret := client.webhookSecret
    let signature := some (signBody hmac secret raw)
    ∃ (o : Observation) (p : Php.Observation) (q : Node.PaymentObservation),
      (o.eventId = eventId.text ∧ o.address = address ∧ o.totalZat = total ∧
        o.settledZat = (depths.bind List.getLast?).getD total ∧
        o.stateVersion = eventId.stateVersion) ∧
      (p.eventId = o.eventId ∧ p.address = o.address ∧ p.totalReceived = o.totalReceived ∧
        p.totalZat = o.totalZat ∧ p.settledZat = o.settledZat ∧
        p.stateVersion = o.stateVersion) ∧
      (q.eventId = o.eventId ∧ q.address = o.address ∧ q.totalReceived = o.totalReceived ∧
        zecToZat q.totalReceived = some o.totalZat ∧
        ∀ l ∈ q.receivedByConfirmations, l.getLast?.bind zecToZat = some o.settledZat) ∧
      receiveWebhook hmac parse secret raw signature = .ok o ∧
      Php.receiveWebhook hmac parse secret raw signature = .ok p ∧
      client.verifyWebhook hmac parse raw signature = .ok q ∧
      ∀ header,
        (receiveWebhook hmac parse secret raw header = .ok o ∨
          receiveWebhook hmac parse secret raw header = .error .invalidSignature) ∧
        (Php.receiveWebhook hmac parse secret raw header = .ok p ∨
          Php.receiveWebhook hmac parse secret raw header = .error .invalidSignature) ∧
        (client.verifyWebhook hmac parse raw header = .ok q ∨
          client.verifyWebhook hmac parse raw header = .error .signature) := by
  intro secret signature
  have hposted : Posted (postedBody fromStr eventId address total
      (depths.map (List.map Nat.cast)) now) eventId address total
      (depths.map (List.map Nat.cast)) now.rfc3339 := posted_postedBody hjson
  generalize postedBody fromStr eventId address total (depths.map (List.map Nat.cast)) now = body
    at hraw hposted
  have hts : (parse raw).bind parseObservation = some hp.observation := by
    rw [hraw, Option.bind_some, parseObservation_posted hposted hp]
  have hphp : (Php.decodeJson parse raw).bind Php.parseObservation = some hp.phpObservation := by
    rw [Php.decodeJson_posted hraw hposted, Option.bind_some,
      Php.parseObservation_posted hposted hp]
  have hnode := Node.parseObservation_posted hposted hp
  have hspells : Spells hmac secret raw trim signature :=
    (spells_signBody fun _ => trim_lowerDigits).mpr rfl
  have hspellsPhp : Spells hmac secret raw Php.trim signature :=
    (spells_signBody fun _ => Php.trim_lowerDigits).mpr rfl
  refine ⟨hp.observation, hp.phpObservation, hp.nodeObservation now, ⟨rfl, rfl, rfl, rfl, rfl⟩,
    ⟨rfl, rfl, rfl, rfl, rfl, rfl⟩,
    ⟨rfl, rfl, rfl, zecToZat_formatZatAsZec hp.total, fun l => hp.settled_of_mem⟩,
    ?_, ?_, ?_, fun header => ⟨?_, ?_, ?_⟩⟩
  · rw [receiveWebhook_eq hts, if_pos (verifySignature_iff.mpr ⟨client.required, hspells⟩)]
  · rw [Php.receiveWebhook_eq hphp,
      if_pos (Php.verifySignature_iff.mpr ⟨client.required, hspellsPhp⟩)]
  · rw [Node.verifyWebhook_eq hraw hnode, if_pos (Node.decodeSignature_iff.mpr hspells)]
  · rw [receiveWebhook_eq hts]
    split
    · exact .inl rfl
    · exact .inr rfl
  · rw [Php.receiveWebhook_eq hphp]
    split
    · exact .inl rfl
    · exact .inr rfl
  · rw [Node.verifyWebhook_eq hraw hnode]
    split
    · exact .inl rfl
    · exact .inr rfl

/-- The text of a posted body. -/
def postedText : Bytes :=
  utf8Bytes ("\x7b\"address\":\"u1\",\"event_id\":\"zcash:7:v3\"," ++
    "\"observed_at\":\"2026-01-02T00:30:00Z\",\"payment_source\":\"zcash\"," ++
    "\"received_by_confirmations\":[\"1.50000000\",\"0.50000000\"]," ++
    "\"total_received\":\"1.50000000\"\x7d")

def postedDigest : List UInt8 :=
  [253, 116, 221, 1, 165, 206, 97, 58, 48, 249, 170, 188, 244, 210, 65, 89, 65, 101, 118, 101, 62,
    35, 159, 230, 23, 177, 23, 22, 87, 98, 249, 63]

/-- HMAC-SHA256 of that text under one secret. -/
def postedHmac : Hmac := fun key message i =>
  if key = utf8Bytes "s3cret" ∧ message = postedText then postedDigest.getD i 0 else 0

theorem posted_webhook_is_read_alike_two_depths :
    let now : Instant := ⟨2026, 1, 2, 0, 30, 0, 0, by decide, by decide, by decide, by decide,
      by decide, by decide, by decide⟩
    let fromStr := fun s => if s = "[150000000,50000000]" then some [150000000, 50000000] else none
    let parse := fun raw => if raw = postedText then
      some (postedBody fromStr ⟨7, 3⟩ "u1" 150000000 (some [150000000, 50000000]) now) else none
    let signature := some (signBody postedHmac "s3cret" postedText)
    ∃ (o : Observation) (p : Php.Observation), o.settledZat = 50000000 ∧ p.settledZat = 50000000 ∧
      receiveWebhook postedHmac parse "s3cret" postedText signature = .ok o ∧
      Php.receiveWebhook postedHmac parse "s3cret" postedText signature = .ok p := by
  intro now fromStr parse signature
  have hp : Postable ⟨7, 3⟩ "u1" 150000000 (some [150000000, 50000000]) :=
    ⟨by decide, by decide, by decide, by decide, by decide, by decide, by decide⟩
  obtain ⟨o, p, -, ⟨-, -, -, ho, -⟩, ⟨-, -, -, -, hop, -⟩, -, hts, hphp, -⟩ :=
    posted_webhook_is_read_alike postedHmac parse fromStr ⟨"s3cret", by decide⟩ ⟨7, 3⟩ "u1"
      150000000 (some [150000000, 50000000]) now postedText hp (by
        intro l hl
        obtain rfl := Option.some.inj hl
        decide) (if_pos rfl)
  exact ⟨o, p, ho, hop.trans ho, hts, hphp⟩

end ZcashPayment

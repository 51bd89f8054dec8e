import Mathlib.Data.Set.List
import ZcashPayment.PluginZcash
import ZcashPayment.Timestamps

/-!
The webhook body, from the outbox to the receivers.

The array of a total is stored as JSON text, read back when the body is built, and written as a
list of amounts. The plugins and the Node client read the same body with checks of their own; all
of them accept what the outbox posts and find the same values in it.
-/

namespace ZcashPayment

open DecimalText

/-! ### The array in the database -/

/-- `[1,2,3]` -/
def zatArrayText (values : List ℤ) : String :=
  "[" ++ ",".intercalate (values.map toString) ++ "]"

def encodeZatArray (values : Option (List ℤ)) : Option String := values.map zatArrayText

/-- `fromStr` is `serde_json::from_str::<Vec<i64>>`. -/
def decodeZatArray (fromStr : String → Option (List ℤ)) (value : Option String) :
    Option (List ℤ) :=
  value.bind fromStr

/-- The posted body as `JSON.parse` returns it. -/
def WebhookBody.toJson (b : WebhookBody) : Json :=
  .object <|
    [("event_id", .string b.eventId), ("payment_source", .string b.paymentSource),
      ("address", .string b.address), ("total_received", .string b.totalReceived),
      ("observed_at", .string b.observedAt)] ++
    (b.receivedByConfirmations.map fun amounts =>
      ("received_by_confirmations", Json.array (amounts.map Json.string))).toList

/-! ### The Node client -/

namespace Node

/-- The `length` of a JavaScript string. -/
def utf16Length (s : String) : ℕ := (s.toList.map fun c => if c.toNat < 0x10000 then 1 else 2).sum

structure PaymentObservation where
  eventId : String
  paymentSource : String
  address : String
  totalReceived : String
  observedAt : String
  receivedByConfirmations : Option (List String)
  deriving DecidableEq, Repr

/-- `WebhookPayloadError` -/
abbrev Parsed := Except String

def requiredString (body : Json) (key : String) (max : ℕ) : Parsed String :=
  match (body.field key).bind Json.string? with
  | none => .error s!"{key} must be a non-empty string"
  | some value =>
    if trim value.toList = [] ∨ utf16Length value > max then
      .error s!"{key} must be a non-empty string"
    else .ok value

def amountItem (item : Json) : Option String :=
  item.string?.filter fun s => trim s.toList ≠ [] ∧ utf16Length s ≤ 64

/-- `none` where the array is malformed, `some none` where it is absent. -/
def optionalAmounts (value : Option Json) : Option (Option (List String)) :=
  match value with
  | none => some none
  | some (.array items) =>
    if items.length = 0 ∨ items.length > maxConfirmationDepths then none
    else (items.mapM amountItem).map some
  | some _ => none

def isRecord : Json → Bool
  | .object _ => true
  | _ => false

def parseObservation (value : Json) : Parsed PaymentObservation := do
  if !isRecord value then throw "webhook body must be an object"
  let eventId ← requiredString value "event_id" 200
  let paymentSource ← requiredString value "payment_source" 32
  let address ← requiredString value "address" 1024
  let totalReceived ← requiredString value "total_received" 64
  let observedAt ← requiredString value "observed_at" 64
  if paymentSource ≠ "zcash" then throw "payment_source must be 'zcash'"
  match optionalAmounts (value.field "received_by_confirmations") with
  | none => throw "received_by_confirmations must be an array of amount strings"
  | some receivedByConfirmations =>
    pure { eventId, paymentSource, address, totalReceived, observedAt, receivedByConfirmations }

end Node

/-! ### The texts of the service -/

/-- A short text of ASCII characters that is more than blanks. -/
structure Plain (s : String) (n : ℕ) : Prop where
  ascii : ∀ c ∈ s.toList, c.toNat < 128
  shown : ∃ c ∈ s.toList, isBlank c = false
  length : s.toList.length ≤ n

variable {s : String} {n : ℕ}

lemma utf16Length_ascii (h : ∀ c ∈ s.toList, c.toNat < 128) :
    Node.utf16Length s = s.toList.length := by
  unfold Node.utf16Length
  generalize s.toList = l at h
  induction l with
  | nil => rfl
  | cons c l ih =>
    have hc : c.toNat < 0x10000 := lt_of_lt_of_le (h c (by simp)) (by norm_num)
    rw [List.map_cons, List.sum_cons, if_pos hc, List.length_cons,
      ih fun d hd => h d (List.mem_cons_of_mem c hd), Nat.add_comm]

lemma Plain.trim_ne (h : Plain s n) : trim s.toList ≠ [] :=
  let ⟨_, hc, hb⟩ := h.shown
  trim_ne_nil hc hb

lemma Plain.utf16Length_le (h : Plain s n) : Node.utf16Length s ≤ n :=
  (utf16Length_ascii h.ascii).trans_le h.length

lemma ascii_of_allDigits {l : List Char} (h : AllDigits l) : ∀ c ∈ l, c.toNat < 128 := by
  intro c hc
  have := h c hc
  simp only [Char.isDigit, Bool.and_eq_true, decide_eq_true_eq] at this
  exact lt_of_le_of_lt this.2 (by decide)

lemma isBlank_of_digit {l : List Char} (h : AllDigits l) (hl : l ≠ []) :
    ∃ c ∈ l, isBlank c = false := by
  obtain ⟨c, hc⟩ := List.exists_mem_of_ne_nil l hl
  exact ⟨c, hc, isBlank_of_isDigit (h c hc)⟩

/-! ### Amounts -/

/-- The digits after the point. -/
def fractionDigits (z : ℕ) : List Char :=
  List.replicate (8 - (digits (z % 100000000)).length) '0' ++ digits (z % 100000000)

lemma toList_formatZatAsZec (z : ℕ) :
    (formatZatAsZec z).toList = digits (z / 100000000) ++ '.' :: fractionDigits z := by
  have hz : ¬((z : ℤ) < 0) := by omega
  simp only [formatZatAsZec, hz, if_false, Int.natAbs_natCast, padTo8, String.toList_append,
    toList_toString, String.toList_ofList, fractionDigits, ← String.length_toList]
  simp

lemma length_fractionDigits (z : ℕ) : (fractionDigits z).length = 8 := by
  have : (digits (z % 100000000)).length ≤ 8 := length_digits_le (by omega) (by omega)
  rw [fractionDigits, List.length_append, List.length_replicate]
  omega

lemma allDigits_fractionDigits (z : ℕ) : AllDigits (fractionDigits z) :=
  (allDigits_zeros _).append (allDigits_digits _)

lemma value_fractionDigits (z : ℕ) : value (fractionDigits z) = z % 100000000 := by
  rw [fractionDigits, value_zeros_append, value_digits]

lemma length_whole {z : ℕ} (h : z < 10 ^ 18) : (digits (z / 100000000)).length ≤ 10 :=
  length_digits_le (by omega) (by omega)

/-- **Amounts round trip**: what the service formats below ten billion ZEC is read back. -/
lemma zecToZat_formatZatAsZec {z : ℕ} (h : z < 10 ^ 18) :
    zecToZat (formatZatAsZec z) = some z := by
  have hw := allDigits_digits (z / 100000000)
  have hf := allDigits_fractionDigits z
  have hpoint : Char.isDigit '.' = false := rfl
  have htrim : trim (formatZatAsZec z).toList =
      digits (z / 100000000) ++ '.' :: fractionDigits z := by
    rw [toList_formatZatAsZec, trim_eq_self]
    intro c hc
    rcases List.mem_append.mp hc with h | h
    · exact isBlank_of_isDigit (hw c h)
    · rcases List.mem_cons.mp h with rfl | h
      · rfl
      · exact isBlank_of_isDigit (hf c h)
  have hmatch : matchAmount (digits (z / 100000000) ++ '.' :: fractionDigits z)
      = some (digits (z / 100000000), some (fractionDigits z)) := by
    simp only [matchAmount, takeWhile_digits_append hw hpoint, dropWhile_digits_append hw hpoint]
    rw [if_pos ⟨hf, (length_fractionDigits z).le⟩]
  have hne := digits_ne_nil (z / 100000000)
  have hlong : ¬((digits (z / 100000000)).dropWhile (· = '0')).length > 10 := by
    have := (List.dropWhile_suffix (l := digits (z / 100000000)) (· = '0')).length_le
    have := length_whole h
    omega
  simp only [zecToZat, htrim, hmatch, hne, if_false, hlong, Option.getD_some]
  have hpt : digits (z / 100000000) ++ '.' :: fractionDigits z ≠ ['.'] := fun heq => by
    simpa [length_fractionDigits] using congrArg List.length heq
  rw [if_neg (by simp [hne, hpt]), List.rightpad, length_fractionDigits]
  simp only [value_digits, value_fractionDigits, zatPerZec, Nat.sub_self, List.replicate_zero,
    List.append_nil, Option.some.injEq]
  omega

lemma plain_formatZatAsZec {z : ℕ} (h : z < 10 ^ 18) : Plain (formatZatAsZec z) 19 where
  ascii := by
    rw [toList_formatZatAsZec]
    intro c hc
    rcases List.mem_append.mp hc with h | h
    · exact ascii_of_allDigits (allDigits_digits _) c h
    · rcases List.mem_cons.mp h with rfl | h
      · decide
      · exact ascii_of_allDigits (allDigits_fractionDigits z) c h
  shown := by
    rw [toList_formatZatAsZec]
    obtain ⟨c, hc, hb⟩ := isBlank_of_digit (allDigits_digits _) (digits_ne_nil (z / 100000000))
    exact ⟨c, List.mem_append_left _ hc, hb⟩
  length := by
    have := length_whole h
    rw [toList_formatZatAsZec, List.length_append, List.length_cons, length_fractionDigits]
    omega

/-! ### The event id -/

lemma toList_eventId (e : EventId) : e.text.toList
    = "zcash:".toList ++ digits e.addressId ++ ':' :: 'v' :: digits e.stateVersion := by
  have hv : ":v".toList = [':', 'v'] := rfl
  simp only [EventId.text, String.toList_append, toList_toString]
  rw [show (toString "zcash:") = "zcash:" from rfl, show (toString ":v") = ":v" from rfl, hv,
    List.append_assoc (_ ++ _)]
  rfl

lemma matchVersion_eventId (e : EventId) : matchVersion e.text = some e.stateVersion := by
  have hd := allDigits_digits e.stateVersion
  have htext : e.text.toList
      = ("zcash:".toList ++ digits e.addressId ++ [':']) ++ 'v' :: digits e.stateVersion := by
    rw [toList_eventId, List.append_assoc _ [':'], List.singleton_append]
  have hv : Char.isDigit 'v' = false := rfl
  unfold matchVersion
  rw [htext, rtakeWhile_digits_append hd hv, rdropWhile_digits_append hd hv]
  dsimp only
  rw [if_pos ⟨digits_ne_nil _, ⟨"zcash:".toList ++ digits e.addressId, by simp⟩⟩, value_digits]

lemma plain_eventId {e : EventId} (ha : e.addressId < 2 ^ 63) (hv : e.stateVersion < 2 ^ 53) :
    Plain e.text 200 where
  ascii := by
    rw [toList_eventId]
    intro c hc
    simp only [List.append_assoc, List.mem_append, List.mem_cons] at hc
    rcases hc with h | h | rfl | rfl | h
    · exact (show ∀ c ∈ "zcash:".toList, c.toNat < 128 by simp) c h
    · exact ascii_of_allDigits (allDigits_digits _) c h
    · decide
    · decide
    · exact ascii_of_allDigits (allDigits_digits _) c h
  shown := ⟨'z', by simp [toList_eventId], rfl⟩
  length := by
    have h1 : (digits e.addressId).length ≤ 19 := length_digits_le (by omega) (by omega)
    have h2 : (digits e.stateVersion).length ≤ 16 := length_digits_le (by omega) (by omega)
    have h3 : "zcash:".toList.length = 6 := rfl
    rw [toList_eventId]
    simp only [List.length_append, List.length_cons, h3]
    omega

/-! ### The time -/

lemma ascii_digitChars {w k : ℕ} : ∀ c ∈ FixedWidth.digitChars w k, c.toNat < 128 := fun _ h =>
  lt_of_le_of_lt (FixedWidth.bounds_of_mem_digitChars h).2 (by decide)

lemma length_stripZeros_le (l : List Char) : (FixedWidth.stripZeros l).length ≤ l.length := by
  obtain ⟨zeros, hl, -⟩ := FixedWidth.stripZeros_append l
  have := congrArg List.length hl
  rw [List.length_append] at this
  omega

lemma fractionText_spec {l : List Char} (h : ∀ c ∈ l, c.toNat < 128) :
    (∀ c ∈ FixedWidth.fractionText l, c.toNat < 128) ∧
      (FixedWidth.fractionText l).length ≤ l.length + 2 := by
  have hlen := length_stripZeros_le l
  by_cases hs : FixedWidth.stripZeros l = []
  · rw [FixedWidth.fractionText, hs]
    exact ⟨by simp, by simp⟩
  · rw [FixedWidth.fractionText_of_ne hs]
    refine ⟨fun c hc => ?_, by simpa using hlen⟩
    simp only [List.cons_append, List.mem_cons, List.mem_append, List.not_mem_nil, or_false] at hc
    rcases hc with rfl | hc | rfl
    · decide
    · exact h c (FixedWidth.mem_of_mem_stripZeros hc)
    · decide

lemma plain_rfc3339 (now : Instant) : Plain now.rfc3339 64 := by
  have hd := @ascii_digitChars
  obtain ⟨hf, hlen⟩ := fractionText_spec (l := now.fraction) fun c hc => hd c hc
  have hnine : now.fraction.length = 9 := FixedWidth.length_digitChars _ _
  refine ⟨fun c hc => ?_, ⟨'T', by simp [Instant.rfc3339, Instant.dateTimeText], rfl⟩, ?_⟩
  · simp only [Instant.rfc3339, Instant.dateTimeText, String.toList_ofList, List.mem_append,
      List.mem_cons] at hc
    rcases hc with h | rfl | h | rfl | h | rfl | h | rfl | h | rfl | h | h
    all_goals first | exact hd c h | exact hf c h | decide
  · simp only [Instant.rfc3339, Instant.dateTimeText, String.toList_ofList, List.length_append,
      List.length_cons, FixedWidth.length_digitChars]
    omega

/-! ### The array of amounts -/

/-- The amounts of a body, as its JSON array. -/
def amountsJson (zats : List ℕ) : List Json :=
  zats.map fun z : ℕ => .string (formatZatAsZec z)

lemma lastDepth_amounts {zats : List ℕ} (h : ∀ z ∈ zats, z < 10 ^ 18) (settled : Option ℕ) :
    lastDepth settled (amountsJson zats) = zats.getLast?.or settled := by
  induction zats generalizing settled with
  | nil => rfl
  | cons z zats ih =>
    have hz := zecToZat_formatZatAsZec (h z (by simp))
    simp only [amountsJson, List.map_cons, lastDepth, Json.string?, Option.bind_some, hz]
    have := ih (fun x hx => h x (List.mem_cons_of_mem z hx)) (some z)
    rw [amountsJson] at this
    rw [this]
    cases zats with
    | nil => rfl
    | cons y zats => simp [List.getLast?_cons]

lemma mapM_amountItem {zats : List ℕ} (h : ∀ z ∈ zats, z < 10 ^ 18) :
    (amountsJson zats).mapM Node.amountItem = some (zats.map fun z : ℕ => formatZatAsZec z) := by
  induction zats with
  | nil => rfl
  | cons z zats ih =>
    have hp := plain_formatZatAsZec (h z (by simp))
    have hitem : Node.amountItem (.string (formatZatAsZec z)) = some (formatZatAsZec z) := by
      have := hp.utf16Length_le
      simp only [Node.amountItem, Json.string?, Option.filter_some]
      rw [if_pos]
      simpa using ⟨hp.trim_ne, by omega⟩
    have := ih fun x hx => h x (List.mem_cons_of_mem z hx)
    simp only [amountsJson, List.map_cons, List.mapM_cons, hitem] at this ⊢
    simp [this]

/-! ### The round trip -/

/-- The body of a total and its array, posted at `now`. -/
def postedBody (fromStr : String → Option (List ℤ)) (eventId : EventId) (address : String)
    (total : ℤ) (depths : Option (List ℤ)) (now : Instant) : Json :=
  (webhookBody eventId address (total, decodeZatArray fromStr (encodeZatArray depths))
    now.rfc3339).toJson

section

variable {fromStr : String → Option (List ℤ)} {eventId : EventId} {address : String}
  {total : ℤ} {depths : Option (List ℤ)} {now : Instant}

lemma decode_encode (hjson : ∀ l ∈ depths, fromStr (zatArrayText l) = some l) :
    decodeZatArray fromStr (encodeZatArray depths) = depths := by
  cases depths with
  | none => rfl
  | some l => exact hjson l rfl

/-- The fields of a posted body. -/
structure Posted (body : Json) (eventId : EventId) (address : String) (total : ℤ)
    (depths : Option (List ℤ)) (now : Timestamp) : Prop where
  event : body.field "event_id" = some (.string eventId.text)
  source : body.field "payment_source" = some (.string "zcash")
  address : body.field "address" = some (.string address)
  total : body.field "total_received" = some (.string (formatZatAsZec total))
  time : body.field "observed_at" = some (.string now)
  depths : body.field "received_by_confirmations" = depths.map fun l =>
    Json.array ((formatZatArray l).map Json.string)

lemma posted_postedBody (hjson : ∀ l ∈ depths, fromStr (zatArrayText l) = some l) :
    Posted (postedBody fromStr eventId address total depths now) eventId address total depths
      now.rfc3339 := by
  have hbody : postedBody fromStr eventId address total depths now = .object
      ([("event_id", .string eventId.text), ("payment_source", .string "zcash"),
        ("address", .string address), ("total_received", .string (formatZatAsZec total)),
        ("observed_at", .string now.rfc3339)] ++
      (depths.map fun l => ("received_by_confirmations",
        Json.array ((formatZatArray l).map Json.string))).toList) := by
    simp only [postedBody, decode_encode hjson, WebhookBody.toJson, webhookBody,
      Option.map_map]
    rfl
  refine ⟨by rw [hbody]; rfl, by rw [hbody]; rfl, by rw [hbody]; rfl, by rw [hbody]; rfl,
    by rw [hbody]; rfl, ?_⟩
  rw [hbody]
  cases depths <;> rfl

/-- What is settled: the last element of the array, or the total. -/
def settledOf (total : ℤ) (depths : Option (List ℤ)) : ℤ := (depths.bind List.getLast?).getD total

lemma settledZat_amounts {total : ℕ} {zats : Option (List ℕ)}
    (h : ∀ l ∈ zats, 1 ≤ l.length ∧ l.length ≤ 101 ∧ ∀ z ∈ l, z < 10 ^ 18) :
    settledZat (zats.map fun l => Json.array (amountsJson l)) total
      = some ((zats.bind List.getLast?).getD total) := by
  cases zats with
  | none => rfl
  | some l =>
    obtain ⟨hpos, hmax, hz⟩ := h l rfl
    have hlen : (amountsJson l).length = l.length := by simp [amountsJson]
    have hne : l ≠ [] := List.ne_nil_of_length_pos hpos
    simp only [settledZat, Option.map_some, hlen, maxConfirmationDepths]
    rw [if_neg (by omega), lastDepth_amounts hz]
    simp [List.getLast?_eq_some_getLast hne]

lemma optionalAmounts_amounts {zats : Option (List ℕ)}
    (h : ∀ l ∈ zats, 1 ≤ l.length ∧ l.length ≤ 101 ∧ ∀ z ∈ l, z < 10 ^ 18) :
    Node.optionalAmounts (zats.map fun l => Json.array (amountsJson l))
      = some (zats.map fun l => l.map fun z : ℕ => formatZatAsZec z) := by
  cases zats with
  | none => rfl
  | some l =>
    obtain ⟨hpos, hmax, hz⟩ := h l rfl
    have hlen : (amountsJson l).length = l.length := by simp [amountsJson]
    simp only [Node.optionalAmounts, Option.map_some, hlen, maxConfirmationDepths]
    rw [if_neg (by omega), mapM_amountItem hz]
    rfl

lemma text_of_field {body : Json} {key s : String} (h : body.field key = some (.string s))
    (hs : trim s.toList ≠ []) : body.text key = some s := by
  simp [Json.text, h, Json.string?, Option.filter, hs]

lemma requiredString_of_field {body : Json} {key s : String} {n : ℕ}
    (h : body.field key = some (.string s)) (hs : trim s.toList ≠ [])
    (hmax : Node.utf16Length s ≤ n) : Node.requiredString body key n = .ok s := by
  simp only [Node.requiredString, h, Option.bind_some, Json.string?]
  rw [if_neg (by simp [hs, hmax])]

end

/-- **Round trip**: the body the outbox posts is accepted by both plugins and by the Node client.
The plugins find the address, the version, the total and the settled amount in it; the Node client
returns the posted strings. -/
theorem webhook_body_round_trip (fromStr : String → Option (List ℤ))
    (addressId stateVersion : ℕ) (address : String) (total : ℤ) (depths : Option (List ℤ))
    (now : Instant) (hid : 1 ≤ addressId ∧ addressId < 2 ^ 63) (hversion : stateVersion < 2 ^ 53)
    (hblank : trim address.toList ≠ []) (hlength : Node.utf16Length address ≤ 1024)
    (htotal : 0 ≤ total ∧ total < 10 ^ 18)
    (hdepths : ∀ l ∈ depths, 1 ≤ l.length ∧ l.length ≤ 101 ∧ ∀ z ∈ l, 0 ≤ z ∧ z < 10 ^ 18)
    (hjson : ∀ l ∈ depths, fromStr (zatArrayText l) = some l) :
    let eventId : EventId := ⟨addressId, stateVersion⟩
    let body := postedBody fromStr eventId address total depths now
    (∃ o, parseObservation body = some o ∧ o.eventId = eventId.text ∧ o.address = address ∧
      o.totalReceived = formatZatAsZec total ∧ o.stateVersion = stateVersion ∧
      (o.totalZat : ℤ) = total ∧ (o.settledZat : ℤ) = settledOf total depths) ∧
    Node.parseObservation body = .ok
      { eventId := eventId.text
        paymentSource := "zcash"
        address
        totalReceived := formatZatAsZec total
        observedAt := now.rfc3339
        receivedByConfirmations := depths.map formatZatArray } := by
  intro eventId body
  obtain ⟨htotal₀, htotal₁⟩ := htotal
  lift total to ℕ using htotal₀
  obtain ⟨zats, rfl⟩ : ∃ zats : Option (List ℕ), depths = zats.map (List.map Nat.cast) := by
    cases depths with
    | none => exact ⟨none, rfl⟩
    | some l =>
      lift l to List ℕ using fun z hz => ((hdepths l rfl).2.2 z hz).1
      exact ⟨some l, rfl⟩
  have hzats : ∀ l ∈ zats, 1 ≤ l.length ∧ l.length ≤ 101 ∧ ∀ z ∈ l, z < 10 ^ 18 := by
    rintro l rfl
    obtain ⟨hpos, hmax, hz⟩ := hdepths _ rfl
    rw [List.length_map] at hpos hmax
    exact ⟨hpos, hmax, fun z hz' => by
      have := (hz z (List.mem_map_of_mem hz')).2
      omega⟩
  obtain ⟨he, hs, ha, ht, ho, hd⟩ : Posted body eventId address total
      (zats.map (List.map Nat.cast)) now.rfc3339 := posted_postedBody hjson
  have hamounts : (zats.map (List.map Nat.cast)).map
      (fun l => Json.array ((formatZatArray l).map Json.string))
      = zats.map fun l => Json.array (amountsJson l) := by
    simp only [Option.map_map, Function.comp_def, formatZatArray, amountsJson, List.map_map]
  rw [hamounts] at hd
  have hevent := plain_eventId (e := eventId) hid.2 hversion
  have htext := plain_formatZatAsZec (z := total) (by omega)
  have htime := plain_rfc3339 now
  have hzec := zecToZat_formatZatAsZec (z := total) (by omega)
  have hsafe : eventId.stateVersion ≤ maxSafeInteger := by
    show stateVersion ≤ 2 ^ 53 - 1
    omega
  clear_value body
  constructor
  · refine ⟨⟨eventId.text, address, formatZatAsZec total, total,
      (zats.bind List.getLast?).getD total, stateVersion, hsafe⟩, ?_, rfl, rfl, rfl, rfl, rfl, ?_⟩
    · have hsource := text_of_field hs (by decide)
      simp only [parseObservation, text_of_field he hevent.trim_ne, hsource,
        text_of_field ha hblank, text_of_field ht htext.trim_ne, text_of_field ho htime.trim_ne,
        matchVersion_eventId, hzec, hd, settledZat_amounts hzats, Option.bind_eq_bind,
        Option.bind_some, dif_pos hsafe, guard, if_true, Option.pure_def]
      rfl
    · rcases zats with _ | l
      · rfl
      · cases hl : l.getLast? <;> simp [settledOf, hl, List.getLast?_map]
  · have hsource := requiredString_of_field (n := 32) hs (by decide) (by decide)
    have hnode : Node.isRecord body = true := by
      cases body <;> first | rfl | exact absurd he (by simp [Json.field])
    simp only [Node.parseObservation, hnode,
      requiredString_of_field he hevent.trim_ne hevent.utf16Length_le, hsource,
      requiredString_of_field ha hblank hlength,
      requiredString_of_field (n := 64) ht htext.trim_ne (htext.utf16Length_le.trans (by norm_num)),
      requiredString_of_field ho htime.trim_ne htime.utf16Length_le, hd,
      optionalAmounts_amounts hzats]
    have htexts : (zats.map (List.map Nat.cast)).map formatZatArray
        = zats.map fun l => l.map fun z : ℕ => formatZatAsZec z := by
      simp only [Option.map_map, Function.comp_def, formatZatArray, List.map_map]
    rw [htexts]
    rfl

theorem webhook_body_round_trip_two_depths :
    let now : Instant := ⟨2026, 1, 2, 0, 30, 0, 0, by decide, by decide, by decide, by decide,
      by decide, by decide, by decide⟩
    let fromStr := fun s => if s = "[150000000,50000000]" then some [150000000, 50000000] else none
    let body := postedBody fromStr ⟨7, 3⟩ "u1" 150000000 (some [150000000, 50000000]) now
    (∃ o, parseObservation body = some o ∧ o.eventId = "zcash:7:v3" ∧ o.address = "u1" ∧
      o.totalReceived = "1.50000000" ∧ o.stateVersion = 3 ∧ (o.totalZat : ℤ) = 150000000 ∧
      (o.settledZat : ℤ) = 50000000) ∧
    Node.parseObservation body = .ok
      ⟨"zcash:7:v3", "zcash", "u1", "1.50000000", "2026-01-02T00:30:00Z",
        some ["1.50000000", "0.50000000"]⟩ := by
  intro now fromStr body
  have h := webhook_body_round_trip fromStr 7 3 "u1" 150000000 (some [150000000, 50000000]) now
    (by decide) (by decide) (by decide) (by decide) (by decide)
    (by
      intro l hl
      obtain rfl := Option.some.inj hl
      decide)
    (by
      intro l hl
      obtain rfl := Option.some.inj hl
      decide)
  have hid : EventId.text ⟨7, 3⟩ = "zcash:7:v3" := by decide +kernel
  have htotal : formatZatAsZec 150000000 = "1.50000000" := by decide +kernel
  have htime : now.rfc3339 = "2026-01-02T00:30:00Z" := by decide +kernel
  have hdepths : (some [150000000, 50000000]).map formatZatArray
      = some ["1.50000000", "0.50000000"] := by decide +kernel
  dsimp only at h
  rw [hid, htotal, htime, hdepths] at h
  exact h

end ZcashPayment

import ZcashPayment.PayPage
import ZcashPayment.SignedWebhooks

/-!
Answers of the service, and what the shops read of them.

The service writes the state of a payment link as JSON. The Node client checks every field of it;
the plugins only trust an answer for their own address, and take the settled amount from it: the
last of the amounts by confirmations, or the total where the service does not send them.
-/

namespace ZcashPayment

open DecimalText

/-! ### What the service writes -/

/-- `Option<String>` -/
def Json.ofOption : Option String → Json
  | some s => .string s
  | none => .null

def PaymentStatusResponse.toJson (r : PaymentStatusResponse) : Json :=
  .object <|
    [("payment_id", .string r.paymentId), ("address", .string r.address),
      ("qr_text", .string r.qrText), ("pay_url", .string r.payUrl),
      ("label", .ofOption r.label), ("message", .ofOption r.message),
      ("amount", .ofOption r.amount), ("total_received", .string r.totalReceived),
      ("state_version", .number (toString r.stateVersion)), ("status", .string r.status.key),
      ("return_url", .ofOption r.returnUrl), ("created_at", .string r.createdAt)] ++
    (r.receivedByConfirmations.map fun amounts =>
      ("received_by_confirmations", Json.array (amounts.map Json.string))).toList

/-! ### The Node client -/

namespace Node

structure PaymentStatus where
  paymentId : String
  address : String
  qrText : String
  payUrl : String
  label : Option String
  message : Option String
  amount : Option String
  totalReceived : String
  receivedByConfirmations : Option (List String)
  /-- The number as JavaScript shows it. -/
  stateVersion : String
  status : String
  returnUrl : Option String
  createdAt : String
  deriving DecidableEq, Repr

def paymentStatuses : List String := ["awaiting_payment", "partially_paid", "paid", "received"]

/-- A string that is not empty. -/
def str (value : Json) (key : String) : Option String :=
  ((value.field key).bind Json.string?).filter (· ≠ "")

/-- `none` where the value is neither a string nor `null`. -/
def nullableStr (value : Json) (key : String) : Option (Option String) :=
  match value.field key with
  | some .null => some none
  | some (.string s) => some (some s)
  | _ => none

/-- `Number.isInteger`, from the text of the number: an exponent is shown for small fractions and
for large integers. -/
def isIntegerText (text : String) : Bool :=
  if text = "Infinity" ∨ text = "-Infinity" then false
  else if text.toList.contains 'e' then text.toList.contains '+'
  else !text.toList.contains '.'

def integer (value : Json) (key : String) : Option String :=
  match value.field key with
  | some (.number text) => if isIntegerText text then some text else none
  | _ => none

def parsePaymentStatus (value : Json) : Option PaymentStatus := do
  guard (isRecord value)
  let paymentId ← str value "payment_id"
  let address ← str value "address"
  let qrText ← str value "qr_text"
  let payUrl ← str value "pay_url"
  let totalReceived ← str value "total_received"
  let createdAt ← str value "created_at"
  let status ← str value "status"
  let label ← nullableStr value "label"
  let message ← nullableStr value "message"
  let amount ← nullableStr value "amount"
  let returnUrl ← nullableStr value "return_url"
  let stateVersion ← integer value "state_version"
  let receivedByConfirmations ← optionalAmounts (value.field "received_by_confirmations")
  guard (paymentStatuses.contains status)
  some { paymentId, address, qrText, payUrl, label, message, amount, totalReceived,
         receivedByConfirmations, stateVersion, status, returnUrl, createdAt }

end Node

/-! ### The plugins in TypeScript -/

mutual

/-- `String(value)` -/
def Json.jsString : Json → String
  | .null => "null"
  | .bool b => if b then "true" else "false"
  | .number text => text
  | .string s => s
  | .array items => ",".intercalate (Json.jsStrings items)
  | .object _ => "[object Object]"

/-- The elements as an array shows them. -/
def Json.jsStrings : List Json → List String
  | [] => []
  | .null :: items => "" :: Json.jsStrings items
  | item :: items => item.jsString :: Json.jsStrings items

end

/-- `String(data[key] ?? "")` -/
def Json.jsText (data : Json) (key : String) : String :=
  match data.field key with
  | none | some .null => ""
  | some value => value.jsString

/-- `ServiceClient.status` for a well-formed id and an answer with status 200. -/
def readStatus (address : String) (body : Json) : Option ServiceStatus :=
  if (body.field "address").bind Json.string? = some address then
    some ⟨body.jsText "total_received", body.field "received_by_confirmations"⟩
  else none

/-! ### The plugins in PHP -/

namespace Php

/-- A string as it is, anything else as no amount. -/
def stringText (data : Json) (key : String) : String :=
  ((data.field key).bind Json.string?).getD ""

/-- `(string) ($data[$key] ?? '')` of a decoded answer. -/
def castText (data : Json) (key : String) : String :=
  match data.field key with
  | none | some .null => ""
  | some (.bool b) => if b then "1" else ""
  | some (.number text) => text
  | some (.string s) => s
  | some (.array _) | some (.object _) => "Array"

/-- `service_status` for a well-formed id and an answer with status 200. `total` is how the plugin
makes a string of the total: by `castText`, and by `stringText` in PrestaShop. -/
def readStatus (total : Json → String → String) (address : String) (body : Json) :
    Option ServiceStatus :=
  match checkedJson body with
  | none => none
  | some body =>
    if castText body "address" = address then
      some {
        status := stringText body "status"
        totalReceived := total body "total_received"
        receivedByConfirmations := body.field "received_by_confirmations"
        qrText := stringText body "qr_text" }
    else none

end Php

/-! ### Amounts -/

section

variable {z : ℤ} {n : ℕ} {l : List ℤ}

/-- An amount that every plugin reads: the largest has ten digits before the point. -/
def Legible (z : ℤ) : Prop := 0 ≤ z ∧ z < 10 ^ 18

instance : DecidablePred Legible := fun z => inferInstanceAs (Decidable (0 ≤ z ∧ z < 10 ^ 18))

lemma formatZatAsZec_neg (h : z < 0) :
    formatZatAsZec z = "-" ++ formatZatAsZec z.natAbs := by
  have hn : ¬((z.natAbs : ℤ) < 0) := by omega
  simp only [formatZatAsZec, h, hn, if_true, if_false, Int.natAbs_natCast, String.append_assoc,
    String.empty_append]

lemma mem_formatZatAsZec {c : Char} (h : c ∈ (formatZatAsZec z).toList) :
    c.isDigit = true ∨ c = '.' ∨ c = '-' := by
  have hnat : ∀ n : ℕ, c ∈ (formatZatAsZec n).toList → c.isDigit = true ∨ c = '.' := by
    intro n hc
    rw [toList_formatZatAsZec] at hc
    rcases List.mem_append.mp hc with h | h
    · exact .inl (allDigits_digits _ c h)
    · rcases List.mem_cons.mp h with rfl | h
      · exact .inr rfl
      · exact .inl (allDigits_fractionDigits n c h)
  by_cases hz : z < 0
  · rw [formatZatAsZec_neg hz, String.toList_append] at h
    rcases List.mem_append.mp h with h | h
    · exact .inr (.inr (by simpa using h))
    · exact (hnat _ h).imp_right .inl
  · obtain ⟨n, rfl⟩ := Int.eq_ofNat_of_zero_le (by omega : 0 ≤ z)
    exact (hnat n h).imp_right .inl

/-- There is nothing to strip. -/
lemma trim_amount (z : ℤ) :
    trim (formatZatAsZec z).toList = (formatZatAsZec z).toList ∧
      Php.trim (formatZatAsZec z).toList = (formatZatAsZec z).toList := by
  refine ⟨trimBy_eq_self fun c hc => ?_, trimBy_eq_self fun c hc => ?_⟩
  · rcases mem_formatZatAsZec hc with h | rfl | rfl
    · exact isBlank_of_isDigit h
    · rfl
    · rfl
  · rcases mem_formatZatAsZec hc with h | rfl | rfl
    · exact Php.isBlank_of_isDigit h
    · rfl
    · rfl

lemma zecToZat_neg (h : z < 0) : zecToZat (formatZatAsZec z) = none := by
  have hmatch : matchAmount (formatZatAsZec z).toList = none := by
    rw [formatZatAsZec_neg h, String.toList_append]
    rfl
  simp only [zecToZat, (trim_amount z).1, hmatch]

/-- Eleven digits before the point are too many. -/
lemma zecToZat_large {n : ℕ} (h : 10 ^ 18 ≤ n) : zecToZat (formatZatAsZec n) = none := by
  have hw := allDigits_digits (n / 100000000)
  have hpoint : Char.isDigit '.' = false := rfl
  have hmatch : matchAmount (formatZatAsZec n).toList =
      some (digits (n / 100000000), some (fractionDigits n)) := by
    rw [toList_formatZatAsZec]
    simp only [matchAmount, takeWhile_digits_append hw hpoint, dropWhile_digits_append hw hpoint]
    rw [if_pos ⟨allDigits_fractionDigits n, (length_fractionDigits n).le⟩]
  have hlong : ((digits (n / 100000000)).dropWhile (· = '0')).length > 10 := by
    by_contra hle
    have hlt : value (digits (n / 100000000)) < 10 ^ 10 := by
      rw [← value_dropZeros]
      have hdrop : AllDigits ((digits (n / 100000000)).dropWhile (· = '0')) := fun c hc =>
        hw c ((List.dropWhile_suffix _).subset hc)
      exact (value_lt hdrop).trans_le (Nat.pow_le_pow_right (by norm_num) (by omega))
    rw [value_digits] at hlt
    omega
  simp only [zecToZat, (trim_amount n).1, hmatch, digits_ne_nil, if_false, hlong, if_true, ite_self]

/-- What the service formats is read back where it is legible, and nowhere else. -/
lemma zecToZat_format (z : ℤ) :
    zecToZat (formatZatAsZec z) = if Legible z then some z.toNat else none := by
  by_cases hneg : z < 0
  · rw [zecToZat_neg hneg, if_neg fun h => absurd h.1 (by omega)]
  · obtain ⟨n, rfl⟩ := Int.eq_ofNat_of_zero_le (by omega : 0 ≤ z)
    by_cases hlarge : 10 ^ 18 ≤ n
    · rw [if_neg fun h => absurd h.2 (by omega)]
      exact zecToZat_large hlarge
    · rw [if_pos ⟨by omega, by omega⟩]
      exact zecToZat_formatZatAsZec (by omega)

lemma Php.zecToZat_format (z : ℤ) :
    Php.zecToZat (formatZatAsZec z) = if Legible z then some z.toNat else none := by
  rw [← ZcashPayment.zecToZat_format]
  exact zecToZat_eq ((trim_amount z).2.trans (trim_amount z).1.symm)

/-- The amounts of an answer, as its JSON array. -/
def depthsJson (l : List ℤ) : List Json := (formatZatArray l).map Json.string

@[simp] lemma length_depthsJson (l : List ℤ) : (depthsJson l).length = l.length := by
  simp [depthsJson, formatZatArray]

lemma lastDepth_depthsJson (l : List ℤ) (settled : Option ℕ) :
    lastDepth settled (depthsJson l) =
      if ∀ z ∈ l, Legible z then (l.getLast?.map Int.toNat).or settled else none := by
  induction l generalizing settled with
  | nil => rfl
  | cons z l ih =>
    have hcons : depthsJson (z :: l) = .string (formatZatAsZec z) :: depthsJson l := rfl
    rw [hcons, lastDepth]
    simp only [Json.string?, Option.bind_some, zecToZat_format, List.forall_mem_cons]
    by_cases hz : Legible z
    · simp only [hz, if_true, true_and]
      rw [ih]
      congr 1
      cases l with
      | nil => rfl
      | cons y l => simp [List.getLast?_cons]
    · simp [hz]

lemma Php.lastDepth_depthsJson (l : List ℤ) (settled : Option ℕ) :
    Php.lastDepth settled (depthsJson l) = ZcashPayment.lastDepth settled (depthsJson l) := by
  refine lastDepth_eq (fun d hd => ?_) settled
  obtain ⟨text, htext, rfl⟩ := List.mem_map.mp hd
  obtain ⟨z, -, rfl⟩ := List.mem_map.mp htext
  simp only [Json.string?, Option.bind_some]
  exact (Php.zecToZat_format z).trans (ZcashPayment.zecToZat_format z).symm

/-- An answer that every plugin reads. -/
structure LegibleAnswer (total : ℤ) (depths : Option (List ℤ)) : Prop where
  total : Legible total
  depths : ∀ l ∈ depths, l ≠ [] ∧ l.length ≤ 101 ∧ ∀ z ∈ l, Legible z

/-- **The settled amount of an answer** is the last of the array, or the total, where the answer is
legible; otherwise there is none. -/
lemma settledZat_iff {total : ℤ} {depths : Option (List ℤ)} :
    ((zecToZat (formatZatAsZec total)).bind fun zat =>
        settledZat (depths.map fun l => Json.array (depthsJson l)) zat) = some n ↔
      LegibleAnswer total depths ∧ (n : ℤ) = settledOf total depths := by
  rw [zecToZat_format]
  by_cases ht : Legible total
  swap
  · rw [if_neg ht]
    exact ⟨fun h => absurd h (by simp), fun h => absurd h.1.total ht⟩
  rw [if_pos ht, Option.bind_some]
  have hof : ∀ {z : ℤ}, Legible z → (some z.toNat = some n ↔ (n : ℤ) = z) := by
    intro z hz
    have := hz.1
    rw [Option.some_inj]
    omega
  cases depths with
  | none =>
    refine (hof ht).trans ⟨fun h => ⟨⟨ht, fun l hl => absurd hl (by simp)⟩, h⟩, fun h => h.2⟩
  | some l =>
    simp only [Option.map_some, settledZat, length_depthsJson, maxConfirmationDepths]
    by_cases hlen : l.length = 0 ∨ l.length > 101
    · rw [if_pos hlen]
      refine ⟨fun h => absurd h (by simp), fun h => ?_⟩
      obtain ⟨hne, hmax, -⟩ := h.1.depths l rfl
      rcases hlen with h0 | h1
      · exact absurd (List.eq_nil_of_length_eq_zero h0) hne
      · omega
    · rw [if_neg hlen, lastDepth_depthsJson]
      have hne : l ≠ [] := fun h => hlen (.inl (h ▸ rfl))
      by_cases hall : ∀ z ∈ l, Legible z
      · rw [if_pos hall, List.getLast?_eq_some_getLast hne]
        have hlast : settledOf total (some l) = l.getLast hne := by
          simp [settledOf, List.getLast?_eq_some_getLast hne]
        rw [hlast]
        refine (hof (hall _ (List.getLast_mem hne))).trans
          ⟨fun h => ⟨⟨ht, fun m hm => ?_⟩, h⟩, fun h => h.2⟩
        obtain rfl := Option.some.inj hm
        exact ⟨hne, by omega, hall⟩
      · rw [if_neg hall]
        exact ⟨fun h => absurd h (by simp), fun h => absurd (h.1.depths l rfl).2.2 hall⟩

lemma Php.settledZat_eq {total : ℤ} {depths : Option (List ℤ)} :
    ((Php.zecToZat (formatZatAsZec total)).bind fun zat =>
        Php.settledZat (depths.map fun l => Json.array (depthsJson l)) zat) =
      (ZcashPayment.zecToZat (formatZatAsZec total)).bind fun zat =>
        ZcashPayment.settledZat (depths.map fun l => Json.array (depthsJson l)) zat := by
  rw [Php.zecToZat_format, ZcashPayment.zecToZat_format]
  cases depths with
  | none => rfl
  | some l => simp only [Option.map_some, Php.settledZat, ZcashPayment.settledZat,
      Php.lastDepth_depthsJson]

end

/-! ### What is read of an answer -/

/-- The array of an answer. -/
def LinkSettings.depthsOf (settings : LinkSettings) (record : PaymentLinkRecord) :
    Option (List ℤ) :=
  settings.requiredConfirmations.map fun required =>
    record.receivedByConfirmationsZat.getD (List.replicate (required + 1) 0)

def LinkSettings.settledZat (settings : LinkSettings) (record : PaymentLinkRecord) : ℤ :=
  settledOf record.currentTotalZat (settings.depthsOf record)

section

variable {settings : LinkSettings} {record : PaymentLinkRecord} {address : String} {n : ℕ}

lemma field_address : (statusOf settings record).toJson.field "address" =
    some (.string record.unifiedAddress) := rfl

lemma field_total : (statusOf settings record).toJson.field "total_received" =
    some (.string (formatZatAsZec record.currentTotalZat)) := rfl

lemma field_depths : (statusOf settings record).toJson.field "received_by_confirmations" =
    (settings.depthsOf record).map fun l => Json.array (depthsJson l) := by
  unfold LinkSettings.depthsOf statusOf PaymentStatusResponse.toJson
  cases settings.requiredConfirmations <;> rfl

lemma liveTotal_some (live : ServiceStatus) : liveTotal (some live) =
    (zecToZat live.totalReceived).bind fun total =>
      ZcashPayment.settledZat live.receivedByConfirmations total := rfl

lemma Php.liveZat_some (live : Php.ServiceStatus) : Php.liveZat (some live) =
    (Php.zecToZat live.totalReceived).bind fun total =>
      Php.settledZat live.receivedByConfirmations total := rfl

lemma readStatus_iff : liveTotal (readStatus address (statusOf settings record).toJson) = some n ↔
    record.unifiedAddress = address ∧
      LegibleAnswer record.currentTotalZat (settings.depthsOf record) ∧
      (n : ℤ) = settings.settledZat record := by
  unfold readStatus
  rw [field_address, field_depths, Json.jsText, field_total]
  simp only [Option.bind_some, Json.string?, Option.some_inj, Json.jsString]
  by_cases ha : record.unifiedAddress = address
  · rw [if_pos ha, liveTotal_some, settledZat_iff]
    exact ⟨fun h => ⟨ha, h⟩, fun h => h.2⟩
  · rw [if_neg ha]
    refine ⟨fun h => ?_, fun h => absurd h.1 ha⟩
    cases h

lemma Php.readStatus_eq {total : Json → String → String}
    (htotal : total (statusOf settings record).toJson "total_received" =
      formatZatAsZec record.currentTotalZat) :
    Php.liveZat (Php.readStatus total address (statusOf settings record).toJson) =
      liveTotal (ZcashPayment.readStatus address (statusOf settings record).toJson) := by
  have hchecked : Php.checkedJson (statusOf settings record).toJson =
      some (statusOf settings record).toJson :=
    Php.checkedJson_eq (l := (settings.depthsOf record).map depthsJson) ⟨_, _, field_address⟩
      (field_depths.trans (Option.map_map _ _ _).symm)
  unfold Php.readStatus ZcashPayment.readStatus
  rw [hchecked]
  simp only [Php.castText, field_address, htotal, field_depths, Option.bind_some, Json.string?,
    Option.some_inj]
  split_ifs
  · rw [Json.jsText, field_total, Php.liveZat_some, liveTotal_some]
    exact Php.settledZat_eq
  · rfl

/-! ### What the Node client reads -/

/-- The answer as the Node client returns it. -/
def PaymentStatusResponse.shown (r : PaymentStatusResponse) : Node.PaymentStatus where
  paymentId := r.paymentId
  address := r.address
  qrText := r.qrText
  payUrl := r.payUrl
  label := r.label
  message := r.message
  amount := r.amount
  totalReceived := r.totalReceived
  receivedByConfirmations := r.receivedByConfirmations
  stateVersion := toString r.stateVersion
  status := r.status.key
  returnUrl := r.returnUrl
  createdAt := r.createdAt

lemma amountItem_format {z : ℤ} (h : z.natAbs < 2 ^ 63) :
    Node.amountItem (.string (formatZatAsZec z)) = some (formatZatAsZec z) := by
  have hascii : ∀ c ∈ (formatZatAsZec z).toList, c.toNat < 128 := by
    intro c hc
    rcases mem_formatZatAsZec hc with h | rfl | rfl
    · exact ascii_of_allDigits (l := [c]) (by simpa [AllDigits] using h) c (by simp)
    · decide
    · decide
  have hnat : ∀ n : ℕ, n < 2 ^ 63 → (formatZatAsZec n).toList ≠ [] ∧
      (formatZatAsZec n).toList.length ≤ 20 := by
    intro n hn
    have hw : (digits (n / 100000000)).length ≤ 11 := length_digits_le (by omega) (by omega)
    rw [toList_formatZatAsZec, List.length_append, List.length_cons, length_fractionDigits]
    exact ⟨by simp, by omega⟩
  have hlength : (formatZatAsZec z).toList ≠ [] ∧ (formatZatAsZec z).toList.length ≤ 21 := by
    obtain ⟨hne, hle⟩ := hnat z.natAbs h
    by_cases hz : z < 0
    · have hsign : "-".toList.length = 1 := rfl
      rw [formatZatAsZec_neg hz, String.toList_append, List.length_append, hsign]
      exact ⟨by simp, by omega⟩
    · have hz : (z.natAbs : ℤ) = z := by omega
      rw [hz] at hne hle
      exact ⟨hne, by omega⟩
  have hutf := utf16Length_ascii hascii
  simp only [Node.amountItem, Json.string?, Option.filter_some]
  rw [if_pos]
  rw [decide_eq_true_eq, (trim_amount z).1, hutf]
  exact ⟨hlength.1, by omega⟩

lemma optionalAmounts_iff {depths : Option (List ℤ)}
    (h : ∀ l ∈ depths, ∀ z ∈ l, z.natAbs < 2 ^ 63) :
    Node.optionalAmounts (depths.map fun l => Json.array (depthsJson l)) =
      if ∀ l ∈ depths, l ≠ [] ∧ l.length ≤ 101 then some (depths.map formatZatArray) else none := by
  cases depths with
  | none => simp [Node.optionalAmounts]
  | some l =>
    have hitems : (depthsJson l).mapM Node.amountItem = some (formatZatArray l) := by
      have hz := h l rfl
      clear h
      induction l with
      | nil => rfl
      | cons z l ih =>
        have ih := ih fun y hy => hz y (List.mem_cons_of_mem z hy)
        rw [show depthsJson (z :: l) = .string (formatZatAsZec z) :: depthsJson l from rfl,
          List.mapM_cons, amountItem_format (hz z List.mem_cons_self), ih]
        rfl
    simp only [Option.map_some, Node.optionalAmounts, length_depthsJson, maxConfirmationDepths]
    by_cases hlen : l.length = 0 ∨ l.length > 101
    · rw [if_pos hlen, if_neg fun hl => ?_]
      obtain ⟨hne, hmax⟩ := hl l rfl
      rcases hlen with h0 | h1
      · exact hne (List.eq_nil_of_length_eq_zero h0)
      · omega
    · rw [if_neg hlen, hitems, if_pos fun m hm => ?_]
      · rfl
      · obtain rfl := Option.some.inj hm
        exact ⟨fun hn => hlen (.inl (hn ▸ rfl)), by omega⟩

lemma str_of_field {body : Json} {k s : String} (h : body.field k = some (.string s)) :
    Node.str body k = if s = "" then none else some s := by
  rw [Node.str, h]
  by_cases hs : s = "" <;> simp [Json.string?, Option.filter_some, hs]

lemma nullableStr_of_field {body : Json} {k : String} {s : Option String}
    (h : body.field k = some (.ofOption s)) : Node.nullableStr body k = some s := by
  rw [Node.nullableStr, h]
  cases s <;> rfl

lemma buildQrText_ne (address : String) (amount memo message : Option String) :
    buildQrText address amount memo message ≠ "" := by
  unfold buildQrText
  dsimp only
  split_ifs <;> exact fun h => by simpa using congrArg String.toList h

lemma payUrl_ne (settings : LinkSettings) (paymentId : String) :
    settings.payUrl paymentId ≠ "" := by
  intro h
  have := congrArg String.toList h
  simp [LinkSettings.payUrl] at this

lemma isIntegerText_toString (n : ℕ) : Node.isIntegerText (toString n) = true := by
  have hdigits : AllDigits (toString n).toList := toList_toString n ▸ allDigits_digits n
  have hnot : ∀ c : Char, c.isDigit = false → c ∉ (toString n).toList := fun c hc hmem =>
    absurd (hdigits c hmem) (by simp [hc])
  have hne : ∀ s : String, (∃ c ∈ s.toList, c.isDigit = false) → toString n ≠ s := by
    rintro s ⟨c, hc, hd⟩ rfl
    exact hnot c hd hc
  unfold Node.isIntegerText
  rw [if_neg (by
    rintro (h | h)
    · exact hne _ ⟨'I', by decide, rfl⟩ h
    · exact hne _ ⟨'I', by decide, rfl⟩ h)]
  have hexp : (toString n).toList.contains 'e' = false := by
    simpa [-toList_toString] using hnot 'e' rfl
  have hpoint : (toString n).toList.contains '.' = false := by
    simpa [-toList_toString] using hnot '.' rfl
  rw [hexp, hpoint]
  rfl

lemma key_ne (status : PaymentStatus) : status.key ≠ "" ∧
    Node.paymentStatuses.contains status.key = true := by
  cases status <;> decide

/-- The version is a safe integer, and the amounts are `i64`. -/
structure Written (settings : LinkSettings) (record : PaymentLinkRecord) : Prop where
  version : record.stateVersion ≤ maxSafeInteger
  depths : ∀ l ∈ settings.depthsOf record, ∀ z ∈ l, z.natAbs < 2 ^ 63

/-- The Node client takes an answer whose texts are not empty and whose array has a length that the
plugins take too. -/
lemma parsePaymentStatus_iff (h : Written settings record) {p : Node.PaymentStatus} :
    Node.parsePaymentStatus (statusOf settings record).toJson = some p ↔
      (record.paymentId ≠ "" ∧ record.unifiedAddress ≠ "" ∧ record.createdAt ≠ "" ∧
        ∀ l ∈ settings.depthsOf record, l ≠ [] ∧ l.length ≤ 101) ∧
      (statusOf settings record).shown = p := by
  set r := statusOf settings record with hr
  have hamounts : r.receivedByConfirmations = (settings.depthsOf record).map formatZatArray := by
    rw [hr, LinkSettings.depthsOf, Option.map_map]
    rfl
  have htotal : r.totalReceived ≠ "" := by
    intro ht
    have hlist := congrArg String.toList ht
    rcases lt_or_ge record.currentTotalZat 0 with hz | hz
    · simp [hr, statusOf, formatZatAsZec_neg hz] at hlist
    · obtain ⟨n, hn⟩ := Int.eq_ofNat_of_zero_le hz
      simp only [hr, statusOf, hn] at hlist
      rw [toList_formatZatAsZec] at hlist
      simp at hlist
  have hqr : r.qrText ≠ "" := buildQrText_ne _ _ _ _
  have hurl : r.payUrl ≠ "" := payUrl_ne _ _
  have hstatus := key_ne r.status
  have hversion : Node.integer r.toJson "state_version" = some (toString r.stateVersion) := by
    rw [Node.integer, show r.toJson.field "state_version" =
      some (.number (toString r.stateVersion)) from rfl]
    exact if_pos (isIntegerText_toString _)
  have hstr : ∀ {k s : String}, r.toJson.field k = some (.string s) → s ≠ "" →
      Node.str r.toJson k = some s := fun hf hs => by rw [str_of_field hf, if_neg hs]
  have hnone : ∀ {k s : String}, r.toJson.field k = some (.string s) → s = "" →
      Node.str r.toJson k = none := fun hf hs => by rw [str_of_field hf, if_pos hs]
  have hrecord : Node.isRecord r.toJson = true := rfl
  unfold Node.parsePaymentStatus
  rw [hrecord, field_depths, optionalAmounts_iff h.depths, hversion,
    hstr (k := "qr_text") rfl hqr, hstr (k := "pay_url") rfl hurl,
    hstr (k := "total_received") rfl htotal, hstr (k := "status") rfl hstatus.1,
    nullableStr_of_field (k := "label") (s := r.label) rfl,
    nullableStr_of_field (k := "message") (s := r.message) rfl,
    nullableStr_of_field (k := "amount") (s := r.amount) rfl,
    nullableStr_of_field (k := "return_url") (s := r.returnUrl) rfl]
  simp only [guard, if_true, Option.pure_def, Option.bind_eq_bind, Option.bind_some, hstatus.2]
  by_cases hid : record.paymentId = ""
  · rw [hnone (k := "payment_id") rfl hid]
    exact ⟨fun hp => absurd hp (by simp), fun hp => absurd hid hp.1.1⟩
  by_cases haddress : record.unifiedAddress = ""
  · rw [hnone (k := "address") rfl haddress]
    exact ⟨fun hp => absurd hp (by simp), fun hp => absurd haddress hp.1.2.1⟩
  by_cases hcreated : record.createdAt = ""
  · rw [hnone (k := "created_at") rfl hcreated]
    exact ⟨fun hp => absurd hp (by simp), fun hp => absurd hcreated hp.1.2.2.1⟩
  rw [hstr (k := "payment_id") rfl hid, hstr (k := "address") rfl haddress,
    hstr (k := "created_at") rfl hcreated]
  simp only [Option.bind_some]
  by_cases hlength : ∀ l ∈ settings.depthsOf record, l ≠ [] ∧ l.length ≤ 101
  · rw [if_pos hlength, Option.bind_some, ← hamounts, Option.some_inj]
    exact ⟨fun hp => ⟨⟨hid, haddress, hcreated, hlength⟩, hp⟩, fun hp => hp.2⟩
  · rw [if_neg hlength]
    exact ⟨fun hp => absurd hp (by simp), fun hp => absurd hp.1.2.2.2 hlength⟩

end

/-- **An answer is read alike**: the plugins take one for the order's own address only, find the
last of its array in it, or the total where it has none, and refuse it where an amount is negative
or has more than ten digits before the point; the Node client returns its texts. -/
theorem status_answer_is_read_iff (settings : LinkSettings) (record : PaymentLinkRecord)
    (h : Written settings record) :
    let body := (statusOf settings record).toJson
    (∀ address n, liveTotal (readStatus address body) = some n ↔
      record.unifiedAddress = address ∧
        LegibleAnswer record.currentTotalZat (settings.depthsOf record) ∧
        (n : ℤ) = settings.settledZat record) ∧
    (∀ address,
      Php.liveZat (Php.readStatus Php.castText address body) = liveTotal (readStatus address body) ∧
      Php.liveZat (Php.readStatus Php.stringText address body) =
        liveTotal (readStatus address body)) ∧
    ∀ p, Node.parsePaymentStatus body = some p ↔
      (record.paymentId ≠ "" ∧ record.unifiedAddress ≠ "" ∧ record.createdAt ≠ "" ∧
        ∀ l ∈ settings.depthsOf record, l ≠ [] ∧ l.length ≤ 101) ∧
      (statusOf settings record).shown = p :=
  ⟨fun _ _ => readStatus_iff, fun _ => ⟨Php.readStatus_eq rfl, Php.readStatus_eq rfl⟩,
    fun _ => parsePaymentStatus_iff h⟩

theorem status_answer_is_read_iff_two_depths :
    let settings : LinkSettings := { publicBaseUrl := none, requiredConfirmations := some 1 }
    let record : PaymentLinkRecord :=
      { paymentId := "00ff00ff00ff00ff00ff00ff00ff00ff", unifiedAddress := "u1"
        requestLabel := none, requestMemo := none, requestMessage := some "order 7"
        requestedAmount := some "2", returnUrl := none, createdAt := "t1"
        currentTotalZat := 150000000, stateVersion := 3
        receivedByConfirmationsZat := some [150000000, 50000000] }
    let body := (statusOf settings record).toJson
    liveTotal (readStatus "u1" body) = some 50000000 ∧ liveTotal (readStatus "u2" body) = none ∧
      (Node.parsePaymentStatus body).isSome = true := by
  intro settings record body
  obtain ⟨hread, -, hnode⟩ := status_answer_is_read_iff settings record
    ⟨by decide, by
      intro l hl
      obtain rfl := Option.some.inj hl
      decide⟩
  refine ⟨(hread "u1" 50000000).mpr ⟨rfl, ⟨by decide, fun l hl => ?_⟩, by decide⟩, ?_, ?_⟩
  · obtain rfl := Option.some.inj hl
    decide
  · rcases hn : liveTotal (readStatus "u2" body) with _ | n
    · rfl
    · exact absurd ((hread "u2" n).mp hn).1 (by decide)
  · rw [(hnode _).mpr ⟨⟨by decide, by decide, by decide, fun l hl => ?_⟩, rfl⟩]
    · rfl
    · obtain rfl := Option.some.inj hl
      decide

end ZcashPayment

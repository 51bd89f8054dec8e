import ZcashPayment.DecimalText
import ZcashPayment.Deliveries

/-!
What the shop plugins read: amounts, webhook bodies and status answers.

The Medusa and the Vendure plugin have the same `zecToZat`, `zatToZec`, `settledZat` and
`parseObservation`. The texts come out of `JSON.parse`, so a body is a `Json` value here.
-/

namespace ZcashPayment

open DecimalText

/-- A parsed JSON value. A number keeps the text JavaScript shows it with. -/
inductive Json where
  | null
  | bool (b : Bool)
  | number (text : String)
  | string (s : String)
  | array (items : List Json)
  | object (fields : List (String × Json))

/-- `data[key]`; `none` is `undefined`. -/
def Json.field (data : Json) (key : String) : Option Json :=
  match data with
  | .object fields => fields.lookup key
  | _ => none

/-- The value where `typeof` says `"string"`. -/
def Json.string? : Json → Option String
  | .string s => some s
  | _ => none

/-! ### Amounts -/

def zatPerZec : ℕ := 100000000

/-- `/^(\d*)(?:\.(\d{0,8}))?$/`: the digits before the point, and those after it. -/
def matchAmount (v : List Char) : Option (List Char × Option (List Char)) :=
  let whole := v.takeWhile Char.isDigit
  match v.dropWhile Char.isDigit with
  | [] => some (whole, none)
  | '.' :: frac => if AllDigits frac ∧ frac.length ≤ 8 then some (whole, some frac) else none
  | _ => none

def zecToZat (s : String) : Option ℕ :=
  let v := trim s.toList
  match matchAmount v with
  | none => none
  | some (m1, m2) =>
    if v = [] ∨ v = ['.'] then none
    else
      let whole := if m1 = [] then ['0'] else m1
      if (whole.dropWhile (· = '0')).length > 10 then none
      else some (value whole * zatPerZec + value ((m2.getD []).rightpad 8 '0'))

def zatToZec (zat : ℤ) : String := formatZatAsZec zat

/-! ### Bodies and answers -/

def maxConfirmationDepths : ℕ := 101

/-- The loop over the array: every element is an amount, and the last one is returned. -/
def lastDepth (settled : Option ℕ) : List Json → Option ℕ
  | [] => settled
  | depth :: depths =>
    match depth.string?.bind zecToZat with
    | none => none
    | some zat => lastDepth (some zat) depths

/-- The last `received_by_confirmations` element, or the total where there is none. -/
def settledZat (depths : Option Json) (totalZat : ℕ) : Option ℕ :=
  match depths with
  | none => some totalZat
  | some (.array depths) =>
    if depths.length = 0 ∨ depths.length > maxConfirmationDepths then none
    else lastDepth none depths
  | some _ => none

def maxSafeInteger : ℕ := 2 ^ 53 - 1

/-- A valid webhook body. -/
structure Observation where
  eventId : String
  address : String
  totalReceived : String
  /-- Everything received, mempool included. -/
  totalZat : ℕ
  /-- What has the required confirmations. -/
  settledZat : ℕ
  stateVersion : ℕ
  safe : stateVersion ≤ maxSafeInteger
  deriving DecidableEq

/-- An event of version `v` that reports `settled` zatoshis as confirmed. -/
def testEvent (v settled : ℕ) (h : v ≤ maxSafeInteger) : Observation where
  eventId := s!"zcash:1:v{v}"
  address := "u1"
  totalReceived := zatToZec settled
  totalZat := settled
  settledZat := settled
  stateVersion := v
  safe := h

/-- `/:v(\d+)$/`, and the number it matched. -/
def matchVersion (eventId : String) : Option ℕ :=
  let version := eventId.toList.rtakeWhile Char.isDigit
  if version ≠ [] ∧ [':', 'v'] <:+ eventId.toList.rdropWhile Char.isDigit then
    some (value version)
  else none

/-- A string that is more than blanks. -/
def Json.text (data : Json) (key : String) : Option String :=
  ((data.field key).bind Json.string?).filter fun s => trim s.toList ≠ []

def parseObservation (data : Json) : Option Observation := do
  let eventId ← data.text "event_id"
  let paymentSource ← data.text "payment_source"
  let address ← data.text "address"
  let totalReceived ← data.text "total_received"
  let _ ← data.text "observed_at"
  guard (paymentSource = "zcash")
  let stateVersion ← matchVersion eventId
  let totalZat ← zecToZat totalReceived
  -- `Number.isSafeInteger`
  if safe : stateVersion ≤ maxSafeInteger then
    let settled ← settledZat (data.field "received_by_confirmations") totalZat
    some { eventId, address, totalReceived, totalZat, settledZat := settled, stateVersion, safe }
  else none

/-- An answer of the status call for the payment's own address: `String` of its
`total_received`, and its array. -/
structure ServiceStatus where
  totalReceived : String
  receivedByConfirmations : Option Json

/-- What a status answer says is settled; `none` where the plugins throw a `RetryError`. -/
def liveTotal (live : Option ServiceStatus) : Option ℕ := do
  let live ← live
  let total ← zecToZat live.totalReceived
  settledZat live.receivedByConfirmations total

end ZcashPayment

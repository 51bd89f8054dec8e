import ZcashPayment.PluginZcash

/-!
What the PHP plugins read: amounts, webhook bodies, status answers and pay links.

The plugins for WooCommerce, Easy Digital Downloads and PrestaShop share these helpers. They differ
from the ones in TypeScript in what counts as a blank, in that a `$` also matches before a last
line feed, and in that a version too large for an integer becomes the largest one.
-/

namespace ZcashPayment.Php

open DecimalText

/-- What `trim` strips. -/
def isBlank (c : Char) : Bool :=
  c = ' ' || c = '\t' || c = '\n' || c = '\r' || c = Char.ofNat 0 || c = Char.ofNat 11

def trim (l : List Char) : List Char := (l.dropWhile isBlank).rdropWhile isBlank

/-- A string that is not `empty`. -/
def NonEmpty : Type := {s : String // s ≠ "" ∧ s ≠ "0"}

instance : DecidableEq NonEmpty := inferInstanceAs (DecidableEq {s : String // s ≠ "" ∧ s ≠ "0"})

/-- `empty` turned around. -/
def nonEmpty? (s : String) : Option NonEmpty :=
  if h : s ≠ "" ∧ s ≠ "0" then some ⟨s, h⟩ else none

def ctypeXdigit (s : String) : Bool :=
  s ≠ "" && s.toList.all fun c =>
    c.isDigit || ('a' ≤ c && c ≤ 'f') || ('A' ≤ c && c ≤ 'F')

def zecToZat (s : String) : Option ℕ :=
  let v := trim s.toList
  match matchAmount v with
  | none => none
  | some (m1, m2) =>
    if v = [] ∨ v = ['.'] then none
    else
      let whole := if m1 = [] then ['0'] else m1
      if (whole.dropWhile (· = '0')).length > 10 then none
      else some (value whole * zatPerZec + value ((m2.getD []).rightpad 8 '0'))

/-- The loop over the array: every element is an amount, and the last one is returned. -/
def lastDepth (settled : Option ℕ) : List Json → Option ℕ
  | [] => settled
  | depth :: depths =>
    match depth.string?.bind zecToZat with
    | none => none
    | some zat => lastDepth (some zat) depths

/-- The last `received_by_confirmations` element, or the total where there is none. Only a JSON
array counts: `decode_json` refuses anything else. -/
def settledZat (depths : Option Json) (totalZat : ℕ) : Option ℕ :=
  match depths with
  | none => some totalZat
  | some (.array depths) =>
    if depths.length = 0 ∨ depths.length > maxConfirmationDepths then none
    else lastDepth none depths
  | some _ => none

/-- A valid webhook body. -/
structure Observation where
  eventId : String
  address : String
  totalReceived : String
  /-- Everything received, mempool included. -/
  totalZat : ℕ
  /-- What has the required confirmations. -/
  settledZat : ℕ
  stateVersion : ℕ
  deriving DecidableEq, Repr

def intMax : ℕ := 2 ^ 63 - 1

/-- `/:v(\d+)$/`, and the integer it matched. -/
def matchVersion (eventId : String) : Option ℕ :=
  let l := eventId.toList
  let l := if l.getLast? = some '\n' then l.dropLast else l
  let version := l.rtakeWhile Char.isDigit
  if version ≠ [] ∧ [':', 'v'] <:+ l.rdropWhile Char.isDigit then
    some (min (value version) intMax)
  else none

/-- A string that is more than blanks. -/
def text (data : Json) (key : String) : Option String :=
  ((data.field key).bind Json.string?).filter fun s => trim s.toList ≠ []

def parseObservation (data : Json) : Option Observation := do
  let eventId ← text data "event_id"
  let paymentSource ← text data "payment_source"
  let address ← text data "address"
  let totalReceived ← text data "total_received"
  let _ ← text data "observed_at"
  guard (paymentSource = "zcash")
  let stateVersion ← matchVersion eventId
  let totalZat ← zecToZat totalReceived
  let settled ← settledZat (data.field "received_by_confirmations") totalZat
  some { eventId, address, totalReceived, totalZat, settledZat := settled, stateVersion }

/-- An answer of the status route for the order's own address. The total is the string the plugin
makes of it. -/
structure ServiceStatus where
  status : String
  totalReceived : String
  receivedByConfirmations : Option Json
  qrText : String
  deriving Inhabited

/-- What a status answer says is settled. -/
def liveZat (live : Option ServiceStatus) : Option ℕ := do
  let live ← live
  let total ← zecToZat live.totalReceived
  settledZat live.receivedByConfirmations total

/-- `#^https?://#i` -/
def isHttp (url : String) : Bool :=
  let l := (url.toList.take 8).map Char.toLower
  "http://".toList.isPrefixOf l || "https://".toList.isPrefixOf l

/-- Joins the service's pay link with an optional public base URL. -/
def resolvePayUrl (payUrl base : String) : Option String :=
  if payUrl = "" then none
  else if isHttp payUrl then some payUrl
  else
    let base := String.ofList ((trim base.toList).rdropWhile (· = '/'))
    if base = "" ∨ !isHttp base ∨ payUrl.toList.head? ≠ some '/' then none
    else some (base ++ payUrl)

end ZcashPayment.Php

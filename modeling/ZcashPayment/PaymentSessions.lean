import ZcashPayment.AddressAllocation
import ZcashPayment.ConfirmationArrays
import ZcashPayment.ReturnUrls

/-!
Payment sessions, and the payments a test network makes up.

A session is a fresh address and a link to it. The call makes both in transactions of their own, so
other calls, the scanner and the webhook queue come in between, and a call that ends early leaves an
address without a link. A simulated payment goes through the ledger like a scanned one.
-/

namespace ZcashPayment

open DecimalText
open Allocation (hexString)

structure PaymentSessionRequest where
  paymentSource : String
  label : Option String := none
  memo : Option String := none
  message : Option String := none
  amount : Option String := none
  returnUrl : Option String := none

structure PaymentSessionResponse where
  address : String
  qrText : String
  paymentId : String
  payUrl : String

structure SimulatePaymentRequest where
  address : String
  amount : String
  confirmations : Option ℕ := none
  txid : Option String := none

structure SimulatePaymentResponse where
  txid : String
  totalReceived : String

/-- Why a request is refused. -/
inductive RequestError
  | invalidRequest (message : String)
  | notFound (message : String)
  | failed (error : AppError)

/-- What the service keeps of its settings. -/
structure SessionSettings extends LinkSettings where
  returnUrlAllowedOrigins : List String
  devSimulatedPayments : Bool
  webhookReportConfirmations : ℕ

/-! ### Tables -/

/-- The columns of an issued address that its request fills. -/
structure AddressRequest where
  addressId : ℕ
  requestLabel : Option String
  requestMemo : Option String
  requestMessage : Option String
  requestedAmount : Option String
  deriving DecidableEq, Repr

/-- A row of `payment_links`. -/
structure PaymentLink where
  paymentId : String
  addressId : ℕ
  returnUrl : Option String
  createdAt : Timestamp
  deriving DecidableEq, Repr

structure SessionStore where
  db : Db
  requests : List AddressRequest := []
  paymentLinks : List PaymentLink := []
  simulatedData : Bool := false

namespace SessionStore

/-- The transaction of `mint_address`, for the address the wallet derived. -/
def mintAddress (request : PaymentSessionRequest) (new : NewAddress) (createdAt : Timestamp)
    (s : SessionStore) : Except AppError ((ℕ × String) × SessionStore) := do
  let (addressId, db) ← allocateFreshAddress new createdAt s.db
  return ((addressId, new.unifiedAddress), { s with
    db
    requests := s.requests ++ [{
      addressId
      requestLabel := request.label
      requestMemo := request.memo
      requestMessage := request.message
      requestedAmount := request.amount }] })

def insertPaymentLink (link : PaymentLink) (s : SessionStore) : Except AppError SessionStore :=
  if s.paymentLinks.any fun l => l.paymentId = link.paymentId then
    .error (.database "UNIQUE constraint failed: payment_links.payment_id")
  else if s.paymentLinks.any fun l => l.addressId = link.addressId then
    .error (.database "UNIQUE constraint failed: payment_links.address_id")
  else if ¬s.db.issued link.addressId then .error foreignKeyError
  else .ok { s with paymentLinks := s.paymentLinks ++ [link] }

/-- The link with an id, joined with its address and its totals. -/
def findPaymentLink (s : SessionStore) (paymentId : String) : Option PaymentLinkRecord := do
  let link ← s.paymentLinks.find? fun l => l.paymentId = paymentId
  let issued ← s.db.issuedAddresses.find? link.addressId
  let request ← s.requests.find? fun r => r.addressId = link.addressId
  let totals ← s.db.addressTotals.find? link.addressId
  return {
    paymentId := link.paymentId
    unifiedAddress := issued.unifiedAddress
    requestLabel := request.requestLabel
    requestMemo := request.requestMemo
    requestMessage := request.requestMessage
    requestedAmount := request.requestedAmount
    returnUrl := link.returnUrl
    createdAt := link.createdAt
    currentTotalZat := totals.currentTotalZat
    stateVersion := totals.stateVersion
    receivedByConfirmationsZat := totals.receivedByConfirmations }

def findIssuedAddress (s : SessionStore) (address : String) : Option IssuedAddress :=
  s.db.issuedAddresses.rows.find? fun row => row.unifiedAddress = address

def addressTotalZat (s : SessionStore) (addressId : ℕ) : Option ℤ :=
  (s.db.addressTotals.find? addressId).map (·.currentTotalZat)

def status (s : SessionStore) (settings : SessionSettings) (paymentId : String) :
    Except StatusError PaymentStatusResponse :=
  paymentStatus (fun id => .ok (s.findPaymentLink id)) settings.toLinkSettings paymentId

end SessionStore

/-! ### issue_payment_session -/

/-- The return URL to store, if the request passes its checks. -/
def checkSession (parse : UriParser) (settings : SessionSettings)
    (request : PaymentSessionRequest) : Except RequestError (Option String) :=
  if request.paymentSource ≠ "zcash" then
    .error (.invalidRequest "payment_source must be 'zcash'")
  else
    match (request.returnUrl.map fun value => String.ofList (trimSpace value)).filter (· ≠ "") with
    | none => .ok none
    | some returnUrl =>
      match validateReturnUrl parse returnUrl settings.returnUrlAllowedOrigins with
      | .error message => .error (.invalidRequest message)
      | .ok () => .ok (some returnUrl)

/-- 128 random bits as 32 hexadecimal digits. -/
def newPaymentId (bytes : Fin 16 → UInt8) : String := hexString (List.ofFn bytes)

/-- A call that has got its address and not made its link. -/
structure OpenSession where
  request : PaymentSessionRequest
  returnUrl : Option String
  addressId : ℕ
  address : String

def OpenSession.answer (call : OpenSession) (settings : SessionSettings) (paymentId : String) :
    PaymentSessionResponse where
  address := call.address
  qrText := buildQrText call.address call.request.amount call.request.memo call.request.message
  paymentId
  payUrl := settings.payUrl paymentId

/-- The link of a call, with the id it drew, and the answer. -/
def OpenSession.finish (call : OpenSession) (settings : SessionSettings) (bytes : Fin 16 → UInt8)
    (createdAt : Timestamp) (s : SessionStore) :
    Except AppError (PaymentSessionResponse × SessionStore) := do
  let paymentId := newPaymentId bytes
  let s ← s.insertPaymentLink {
    paymentId
    addressId := call.addressId
    returnUrl := call.returnUrl
    createdAt }
  return (call.answer settings paymentId, s)

/-! ### simulate_payment -/

def simulatedTipHeight : ℤ := 1000000

/-- The text `txid:simulated:address_id`. The txid of a scanned receipt is hexadecimal, so no
scanned receipt has this uid. -/
def simulatedUid (txidHex : String) (addressId : ℕ) : ReceiptUid where
  txidHex := txidHex ++ ":simulated"
  pool := .orchard
  outputIndex := addressId

/-- The kind, the height and the depth of a receipt with so many confirmations. -/
def simulatedDepth : Option ℕ → ReceiptKind × ℤ × ℤ
  | some 0 => (.mempool, 0, 0)
  | some confirmations =>
    let confirmations := min (confirmations : ℤ) simulatedTipHeight
    (.mined, simulatedTipHeight - confirmations + 1, confirmations)
  | none => (.mined, 1, simulatedTipHeight)

def simulatedReceipt (webhookReportConfirmations : ℕ) (txidHex : String) (addressId valueZat : ℕ)
    (confirmations : Option ℕ) (now : Timestamp) : AttributedScannedReceipt :=
  let (receiptKind, minedHeight, confirmationDepth) := simulatedDepth confirmations
  { addressId
    txidHex
    pool := .orchard
    receiptUid := simulatedUid txidHex addressId
    valueZat
    minedHeight
    confirmationDepth
    eligibleForWebhook := decide (confirmationDepth ≥ webhookReportConfirmations)
    receiptKind
    firstObservedAt := now
    lastObservedAt := now }

def isAsciiHexdigit (c : Char) : Bool :=
  c.isDigit || ('a' ≤ c && c ≤ 'f') || ('A' ≤ c && c ≤ 'F')

/-- The transaction id to use: the one given, or the one drawn. -/
def simulatedTxid (txid : Option String) (random : Fin 32 → UInt8) : Option String :=
  match txid with
  | none => some (hexString (List.ofFn random))
  | some txid =>
    let txid := String.ofList (trimSpace txid)
    if byteLen txid.toList = 64 ∧ txid.toList.all isAsciiHexdigit then some (toAsciiLowercase txid)
    else none

/-- A simulated payment that was recorded. -/
structure Report where
  txidHex : String
  addressId : ℕ
  valueZat : ℕ
  confirmations : Option ℕ

/-- What is stored stays stored where a later step fails; a payment that was recorded is told
with the answer. -/
def simulatePayment (settings : SessionSettings) (request : SimulatePaymentRequest)
    (random : Fin 32 → UInt8) (now : Timestamp) (s : SessionStore) :
    Except RequestError (SimulatePaymentResponse × Report) × SessionStore :=
  if ¬settings.devSimulatedPayments then
    (.error (.notFound "simulated payments are disabled"), s)
  else
    match (parseZecAmount request.amount).filter (0 < ·) with
    | none => (.error (.invalidRequest "amount must be a positive ZEC decimal"), s)
    | some valueZat =>
      match s.findIssuedAddress request.address with
      | none => (.error (.notFound "unknown address"), s)
      | some record =>
        let s := { s with simulatedData := true }
        match simulatedTxid request.txid random with
        | none => (.error (.invalidRequest "txid must be 64 hex characters"), s)
        | some txidHex =>
          let receipt := simulatedReceipt settings.webhookReportConfirmations txidHex
            record.addressId valueZat request.confirmations now
          match applyAttributedReceipts [receipt] simulatedTipHeight u32Max now s.db with
          | .error error => (.error (.failed error), s)
          | .ok (affected, db) =>
            let (_, db) := queueWebhookDeliveriesForDirtyAddresses now affected db
            let s := { s with db }
            (.ok ({
              txid := txidHex
              totalReceived := formatZatAsZec ((s.addressTotalZat record.addressId).getD 0) },
              ⟨txidHex, record.addressId, valueZat, request.confirmations⟩), s)

/-! ### A running service -/

/-- A session that was answered. -/
structure IssuedSession where
  call : OpenSession
  response : PaymentSessionResponse

structure Sessions where
  store : SessionStore
  calls : List OpenSession := []
  issued : List IssuedSession := []
  reports : List Report := []

/-- One step of a call, of the scanner or of the queue. What the wallet derives, the random bytes
and the times are given. -/
inductive SessionEvent where
  | mint (request : PaymentSessionRequest) (new : NewAddress) (createdAt : Timestamp)
  /-- The call at a place makes its link and is answered, or fails. -/
  | finish (call : ℕ) (bytes : Fin 16 → UInt8) (createdAt : Timestamp)
  /-- The call at a place ends early. -/
  | abandon (call : ℕ)
  | simulate (request : SimulatePaymentRequest) (random : Fin 32 → UInt8) (now : Timestamp)
  | ledger (finality : ℕ) (now : Timestamp) (op : LedgerOp)
  | queue (now : Timestamp) (addressIds : List ℕ)

section

variable (parse : UriParser) (settings : SessionSettings)
  (cutoffOf : Timestamp → Except AppError Timestamp)

def Sessions.step (s : Sessions) : SessionEvent → Sessions
  | .mint request new createdAt =>
    match checkSession parse settings request with
    | .error _ => s
    | .ok returnUrl =>
      match s.store.mintAddress request new createdAt with
      | .error _ => s
      | .ok ((addressId, address), store) =>
        { s with store, calls := s.calls ++ [⟨request, returnUrl, addressId, address⟩] }
  | .finish i bytes createdAt =>
    match s.calls[i]? with
    | none => s
    | some call =>
      let s := { s with calls := s.calls.eraseIdx i }
      match call.finish settings bytes createdAt s.store with
      | .error _ => s
      | .ok (response, store) => { s with store, issued := s.issued ++ [⟨call, response⟩] }
  | .abandon i => { s with calls := s.calls.eraseIdx i }
  | .simulate request random now =>
    match simulatePayment settings request random now s.store with
    | (.error _, store) => { s with store }
    | (.ok (_, report), store) => { s with store, reports := s.reports ++ [report] }
  | .ledger finality now op =>
    { s with store := { s.store with
      db := LedgerOp.step cutoffOf finality s.store.db (now, op) } }
  | .queue now addressIds =>
    { s with store := { s.store with
      db := (queueWebhookDeliveriesForDirtyAddresses now addressIds s.store.db).2 } }

def Sessions.run (s : Sessions) (events : List SessionEvent) : Sessions :=
  events.foldl (Sessions.step parse settings cutoffOf) s

end

/-- A service on a fresh database. -/
def Sessions.start (config : Config) : Sessions where
  store := { db := startDb config "" [] }

end ZcashPayment

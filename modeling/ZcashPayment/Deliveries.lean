import ZcashPayment.LedgerTotals

/-!
The webhook outbox.

A dirty address gets a row in `webhook_deliveries` with the content the receiver should end
up with, unless the receiver will see that content anyway. The rows are claimed by the
delivery worker one at a time, and each attempt is recorded as a success, a retry or a
permanent failure. The event id carries the version of the totals it reports.
-/

namespace ZcashPayment

/-- A total in zatoshis and the array that goes with it. -/
abbrev Content := ℤ × Option (List ℤ)

def AddressTotals.notified (t : AddressTotals) : Content :=
  (t.lastNotifiedTotalZat, t.lastNotifiedByConfirmations)

def WebhookDelivery.content (d : WebhookDelivery) : Content :=
  (d.totalReceivedZat, d.receivedByConfirmations)

/-! ### The body that is posted -/

/-- `{fractional:08}` -/
def padTo8 (digits : String) : String :=
  String.ofList (List.replicate (8 - digits.length) '0') ++ digits

def formatZatAsZec (valueZat : ℤ) : String :=
  let sign := if valueZat < 0 then "-" else ""
  let absolute := valueZat.natAbs
  sign ++ toString (absolute / 100000000) ++ "." ++ padTo8 (toString (absolute % 100000000))

def formatZatArray (values : List ℤ) : List String := values.map formatZatAsZec

def webhookBody (eventId : EventId) (address : String) (current : Content)
    (now : Timestamp) : WebhookBody where
  eventId := eventId.text
  address
  totalReceived := formatZatAsZec current.1
  observedAt := now
  receivedByConfirmations := current.2.map formatZatArray

/-! ### What is compared with the current content -/

def DeliveryState.outstanding : DeliveryState → Bool
  | .queued | .sending | .retryWait => true
  | .succeeded | .permanentFailure => false

def newerOf (best : Option WebhookDelivery) (d : WebhookDelivery) : Option WebhookDelivery :=
  match best with
  | none => some d
  | some b => if b.deliveryId < d.deliveryId then some d else some b

/-- `ORDER BY delivery_id DESC LIMIT 1` -/
def newest (ds : List WebhookDelivery) : Option WebhookDelivery := ds.foldl newerOf none

def Db.deliveriesOf (db : Db) (a : ℕ) : List WebhookDelivery :=
  db.webhookDeliveries.rows.filter fun d => d.addressId = a

/-- The delivery whose event the totals name as the last notified one. -/
def acked (t : AddressTotals) (ds : List WebhookDelivery) : Option WebhookDelivery :=
  t.lastNotifiedEventId.bind fun e => ds.find? fun d => d.eventId = e

def ackedDeliveryId (t : AddressTotals) (ds : List WebhookDelivery) : Option ℕ :=
  (acked t ds).map (·.deliveryId)

/-- The newest outstanding delivery that is newer than the acknowledged one. -/
def outstanding (t : AddressTotals) (ds : List WebhookDelivery) : Option WebhookDelivery :=
  newest (ds.filter fun d =>
    d.deliveryState.outstanding && (ackedDeliveryId t ds).getD 0 < d.deliveryId)

/-- The newest content the receiver will see: that of an outstanding delivery, otherwise the
acknowledged one. -/
def baseline (t : AddressTotals) (ds : List WebhookDelivery) : Content :=
  (outstanding t ds).elim t.notified WebhookDelivery.content

/-! ### queue_webhook_deliveries_in_tx -/

/-- `UPDATE address_totals … WHERE address_id = ?` -/
def Db.setTotals (db : Db) (a : ℕ) (f : AddressTotals → AddressTotals)
    (hf : ∀ t, (f t).addressId = t.addressId) : Db :=
  { db with
    addressTotals := db.addressTotals.update (fun t => if t.addressId = a then f t else t)
      (fun t => by split_ifs; exacts [hf t, rfl]) }

def cleaned (t : AddressTotals) : AddressTotals :=
  { t with dirtyState := .clean, dirtyReason := none, dirtySinceHeight := none }

def markedQueued (t : AddressTotals) : AddressTotals :=
  { t with dirtyState := .queuedForWebhook, dirtyReason := some "webhook_queued" }

def requeued (now : Timestamp) (t : AddressTotals) : AddressTotals :=
  { markedQueued t with lastChangedAt := now }

@[simp] lemma addressId_cleaned (t : AddressTotals) : (cleaned t).addressId = t.addressId := rfl

@[simp] lemma addressId_markedQueued (t : AddressTotals) :
    (markedQueued t).addressId = t.addressId := rfl

@[simp] lemma addressId_requeued (now : Timestamp) (t : AddressTotals) :
    (requeued now t).addressId = t.addressId := rfl

def queuedDelivery (deliveryId : ℕ) (address : String) (t : AddressTotals) (now : Timestamp) :
    WebhookDelivery :=
  let eventId : EventId := ⟨t.addressId, t.stateVersion⟩
  { deliveryId
    addressId := t.addressId
    eventId
    totalReceivedZat := t.currentTotalZat
    observedAt := now
    requestBodyJson := webhookBody eventId address t.content now
    deliveryState := .queued
    receivedByConfirmations := t.receivedByConfirmations }

/-- `INSERT OR IGNORE`: the event id is unique. -/
def Db.insertDelivery (db : Db) (address : String) (t : AddressTotals) (now : Timestamp) : Db :=
  if db.webhookDeliveries.rows.any fun d => d.eventId = ⟨t.addressId, t.stateVersion⟩ then db
  else
    { db with
      webhookDeliveries := db.webhookDeliveries.insert
        (queuedDelivery (nextRowId (db.webhookDeliveries.rows.map WebhookDelivery.deliveryId))
          address t now)
        (nextRowId_notMem _) }

/-- One turn of the loop over the addresses. -/
def queueOne (now : Timestamp) (acc : List ℕ × Db) (a : ℕ) : List ℕ × Db :=
  let db := acc.2
  match db.issuedAddresses.find? a, db.addressTotals.find? a with
  | some issued, some t =>
    if t.dirtyState ≠ .dirty then acc
    else if t.content = baseline t (db.deliveriesOf a) then
      if (outstanding t (db.deliveriesOf a)).isNone then
        (acc.1, db.setTotals a cleaned addressId_cleaned)
      else (acc.1, db.setTotals a markedQueued addressId_markedQueued)
    else
      (acc.1 ++ [a],
        (db.insertDelivery issued.unifiedAddress t now).setTotals a (requeued now)
          (addressId_requeued now))
  | _, _ => acc

/-- The ids returned are those a delivery was queued for. -/
def queueWebhookDeliveriesInTx (now : Timestamp) (addressIds : List ℕ) (db : Db) :
    List ℕ × Db :=
  (idSet addressIds).foldl (queueOne now) ([], db)

def queueWebhookDeliveriesForDirtyAddresses (now : Timestamp) (addressIds : List ℕ) (db : Db) :
    List ℕ × Db :=
  if addressIds.isEmpty then ([], db) else queueWebhookDeliveriesInTx now addressIds db

def dirtyAddresses (db : Db) : List ℕ :=
  (db.addressTotals.rows.filter fun t => t.dirtyState = .dirty).map (·.addressId)

def queueAllDirtyWebhookDeliveries (now : Timestamp) (db : Db) : List ℕ × Db :=
  queueWebhookDeliveriesForDirtyAddresses now (dirtyAddresses db) db

/-! ### The delivery worker -/

/-- `UPDATE webhook_deliveries …` on the rows a predicate selects. -/
def Db.setDeliveries (db : Db) (p : WebhookDelivery → Bool)
    (f : WebhookDelivery → WebhookDelivery) (hf : ∀ d, (f d).deliveryId = d.deliveryId) : Db :=
  { db with
    webhookDeliveries := db.webhookDeliveries.update (fun d => if p d then f d else d)
      (fun d => by split_ifs; exacts [hf d, rfl]) }

def interrupted (d : WebhookDelivery) : Bool := d.deliveryState = .sending

def recoveredRow (now : Timestamp) (d : WebhookDelivery) : WebhookDelivery :=
  { d with
    deliveryState := .retryWait
    nextAttemptAt := some now
    lastResponseBody := some (d.lastResponseBody.getD "delivery interrupted before completion")
    lastAttemptAt := some (d.lastAttemptAt.getD now) }

@[simp] lemma deliveryId_recoveredRow (now : Timestamp) (d : WebhookDelivery) :
    (recoveredRow now d).deliveryId = d.deliveryId := rfl

def recoverInterruptedWebhookDeliveries (now : Timestamp) (db : Db) : List ℕ × Db :=
  ((db.webhookDeliveries.rows.filter interrupted).map (·.deliveryId),
    db.setDeliveries interrupted (recoveredRow now) (deliveryId_recoveredRow now))

/-- `delivery_state = 'queued' OR (… 'retry_wait' AND next_attempt_at <= now)` -/
def ready (now : Timestamp) (d : WebhookDelivery) : Bool :=
  d.deliveryState = .queued ||
    (d.deliveryState = .retryWait && d.nextAttemptAt.any (· ≤ now))

def olderOf (best : Option WebhookDelivery) (d : WebhookDelivery) : Option WebhookDelivery :=
  match best with
  | none => some d
  | some b =>
    if d.observedAt < b.observedAt ∨ d.observedAt = b.observedAt ∧ d.deliveryId < b.deliveryId
    then some d else some b

/-- `ORDER BY observed_at ASC, delivery_id ASC LIMIT 1` -/
def oldestReady (now : Timestamp) (ds : List WebhookDelivery) : Option WebhookDelivery :=
  (ds.filter (ready now)).foldl olderOf none

def claimedRow (d : WebhookDelivery) : WebhookDelivery :=
  { d with deliveryState := .sending, nextAttemptAt := none }

@[simp] lemma deliveryId_claimedRow (d : WebhookDelivery) :
    (claimedRow d).deliveryId = d.deliveryId := rfl

def claimReadyWebhookDelivery (now : Timestamp) (db : Db) : Option WebhookDelivery × Db :=
  match oldestReady now db.webhookDeliveries.rows with
  | none => (none, db)
  | some delivery =>
    (some delivery, db.setDeliveries (fun d => d.deliveryId = delivery.deliveryId) claimedRow
      deliveryId_claimedRow)

/-- What the worker reports of one attempt. -/
structure Attempt where
  deliveryId : ℕ
  attemptedAt : Timestamp
  httpStatus : Option ℤ
  responseBody : Option String
  transportError : Option String
  durationMs : ℤ
  deriving DecidableEq, Repr

/-- The delivery row after an attempt that ended in `state`. -/
def attemptedRow (at' : Attempt) (state : DeliveryState) (nextAttemptAt : Option Timestamp)
    (d : WebhookDelivery) : WebhookDelivery :=
  { d with
    deliveryState := state
    attemptCount := d.attemptCount + 1
    nextAttemptAt
    lastHttpStatus := at'.httpStatus
    lastResponseBody := at'.responseBody
    lastAttemptAt := some at'.attemptedAt }

@[simp] lemma deliveryId_attemptedRow (at' : Attempt) (state : DeliveryState)
    (nextAttemptAt : Option Timestamp) (d : WebhookDelivery) :
    (attemptedRow at' state nextAttemptAt d).deliveryId = d.deliveryId := rfl

/-- The delivery row and the attempt row, which all three outcomes write. -/
def Db.recordAttempt (db : Db) (at' : Attempt) (state : DeliveryState)
    (nextAttemptAt : Option Timestamp) : Db :=
  { db.setDeliveries (fun d => d.deliveryId = at'.deliveryId)
      (attemptedRow at' state nextAttemptAt) (deliveryId_attemptedRow at' state nextAttemptAt) with
    webhookDeliveryAttempts := db.webhookDeliveryAttempts ++ [{
      deliveryId := at'.deliveryId
      attemptedAt := at'.attemptedAt
      httpStatus := at'.httpStatus
      responseBody := at'.responseBody
      transportError := at'.transportError
      durationMs := at'.durationMs }] }

/-- The totals after the acknowledgment of `d`. They stay dirty here: the queue decides,
against any newer outstanding delivery, whether they are clean. -/
def acknowledgedBy (d : WebhookDelivery) (attemptedAt : Timestamp) (t : AddressTotals) :
    AddressTotals :=
  { t with
    lastNotifiedTotalZat := d.totalReceivedZat
    lastNotifiedEventId := some d.eventId
    lastNotifiedAt := some attemptedAt
    lastNotifiedByConfirmations := d.receivedByConfirmations
    dirtyState := .dirty
    dirtyReason := some (t.dirtyReason.getD "webhook_acknowledged") }

@[simp] lemma addressId_acknowledgedBy (d : WebhookDelivery) (attemptedAt : Timestamp)
    (t : AddressTotals) : (acknowledgedBy d attemptedAt t).addressId = t.addressId := rfl

/-- The database a success hands to the queue. -/
def Db.acknowledge (db : Db) (d : WebhookDelivery) (at' : Attempt) : Db :=
  (db.recordAttempt at' .succeeded none).setTotals d.addressId
    (acknowledgedBy d at'.attemptedAt) (addressId_acknowledgedBy d at'.attemptedAt)

/-- Whether a newer event is already acknowledged. -/
def ackedIsNewer (db : Db) (d : WebhookDelivery) : Bool :=
  (db.addressTotals.find? d.addressId).any fun t =>
    (ackedDeliveryId t (db.deliveriesOf d.addressId)).any (d.deliveryId < ·)

def recordWebhookDeliverySuccess (at' : Attempt) (now : Timestamp) (db : Db) :
    Except AppError Db :=
  match db.webhookDeliveries.find? at'.deliveryId with
  | none => .error (.database "Query returned no rows")
  | some d =>
    -- A late success must not move the acknowledgment backwards.
    if ackedIsNewer (db.recordAttempt at' .succeeded none) d then
      .ok (db.recordAttempt at' .succeeded none)
    else .ok (queueWebhookDeliveriesInTx now [d.addressId] (db.acknowledge d at')).2

def recordWebhookDeliveryRetry (at' : Attempt) (nextAttemptAt : Timestamp) (db : Db) :
    Except AppError Db :=
  if (db.webhookDeliveries.find? at'.deliveryId).isSome then
    .ok (db.recordAttempt at' .retryWait (some nextAttemptAt))
  else .error foreignKeyError

def recordWebhookDeliveryPermanentFailure (at' : Attempt) (db : Db) : Except AppError Db :=
  if (db.webhookDeliveries.find? at'.deliveryId).isSome then
    .ok (db.recordAttempt at' .permanentFailure none)
  else .error foreignKeyError

example : formatZatAsZec 123456789 = "1.23456789" := by decide

example : formatZatAsZec (-5) = "-0.00000005" := by decide

end ZcashPayment

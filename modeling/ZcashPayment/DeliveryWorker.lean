import ZcashPayment.Deliveries
import ZcashPayment.Timestamps

/-!
The delivery worker.

One call of `deliver_ready_once` claims a delivery in one transaction, posts it, and records
what came of it in another. The worker is only spawned with a URL and a secret, so neither can
be missing here. Between its two transactions other parties write, and the process may stop;
a start moves what was left in `sending` back to `retry_wait`.
-/

namespace ZcashPayment

/-- The settings of the delivery worker, as `from_env` accepts them. -/
structure DeliveryConfig where
  webhookRetryDelaySeconds : ℕ
  webhookRetryMaxDelaySeconds : ℕ
  webhookMaxAttempts : ℕ
  delay_mem : 0 < webhookRetryDelaySeconds ∧ webhookRetryDelaySeconds < 2 ^ 64
  maxDelay_mem : 0 < webhookRetryMaxDelaySeconds ∧ webhookRetryMaxDelaySeconds < 2 ^ 64
  attempts_mem : 0 < webhookMaxAttempts ∧ webhookMaxAttempts < 2 ^ 32

/-- What `send` returned. -/
inductive HttpOutcome where
  | response (status : ℕ) (body : String)
  | transportError (error : String)
  deriving DecidableEq, Repr

def isSuccess (status : ℕ) : Bool := 200 ≤ status && status < 300

def isServerError (status : ℕ) : Bool := 500 ≤ status && status < 600

def tooManyRequests : ℕ := 429

def maxU32 : ℕ := 2 ^ 32 - 1

def maxU64 : ℕ := 2 ^ 64 - 1

def maxI64 : ℕ := 2 ^ 63 - 1

def saturatingMul (a b : ℕ) : ℕ := min (a * b) maxU64

/-- `ok_or_else` -/
def okOrElse {α : Type} (o : Option α) (e : AppError) : Except AppError α :=
  o.elim (.error e) .ok

def retryAt (clock : Instant) (delaySeconds : ℕ) : Except AppError Timestamp :=
  okOrElse ((clock.addSeconds (min delaySeconds maxI64)).map Instant.rfc3339)
    (.wallet "webhook retry delay overflowed timestamp")

def nextRetryDelaySeconds (config : DeliveryConfig) (currentAttemptCount : ℕ) : ℕ :=
  let attemptIndex := min currentAttemptCount maxU32
  let multiplier := if 63 ≤ attemptIndex then maxU64 else 2 ^ attemptIndex
  min (saturatingMul config.webhookRetryDelaySeconds multiplier)
    config.webhookRetryMaxDelaySeconds

def shouldPermanentlyFail (config : DeliveryConfig) (currentAttemptCount : ℕ) : Bool :=
  let nextAttemptNumber := min (min currentAttemptCount maxU32 + 1) maxU32
  config.webhookMaxAttempts ≤ nextAttemptNumber

/-- What a post came back with, and the clock after it: when it was recorded as attempted,
what a retry is counted from, and the time of the queue in the same transaction. -/
structure Reply where
  outcome : HttpOutcome
  attemptedAt : Instant
  retryClock : Instant
  queueClock : Instant
  durationMs : ℤ

def Reply.attempt (r : Reply) (deliveryId : ℕ) : Attempt where
  deliveryId
  attemptedAt := r.attemptedAt.rfc3339
  httpStatus := match r.outcome with
    | .response status _ => some status
    | .transportError _ => none
  responseBody := match r.outcome with
    | .response _ body => some body
    | .transportError _ => none
  transportError := match r.outcome with
    | .response _ _ => none
    | .transportError error => some error
  durationMs := r.durationMs

/-- A failure that may be tried again. -/
def retryOrFail (config : DeliveryConfig) (delivery : WebhookDelivery) (r : Reply) (db : Db) :
    Except AppError Db :=
  if shouldPermanentlyFail config delivery.attemptCount then
    recordWebhookDeliveryPermanentFailure (r.attempt delivery.deliveryId) db
  else match retryAt r.retryClock (nextRetryDelaySeconds config delivery.attemptCount) with
    | .error e => .error e
    | .ok nextAttemptAt =>
      recordWebhookDeliveryRetry (r.attempt delivery.deliveryId) nextAttemptAt db

/-- The second half of `deliver_ready_once`. -/
def recordReply (config : DeliveryConfig) (delivery : WebhookDelivery) (r : Reply) (db : Db) :
    Except AppError Db :=
  match r.outcome with
  | .response status _ =>
    if isSuccess status then
      recordWebhookDeliverySuccess (r.attempt delivery.deliveryId) r.queueClock.rfc3339 db
    else if isServerError status || status = tooManyRequests then
      retryOrFail config delivery r db
    else recordWebhookDeliveryPermanentFailure (r.attempt delivery.deliveryId) db
  | .transportError _ => retryOrFail config delivery r db

/-- The database, and the delivery of a call that has not returned yet. -/
structure Worker where
  db : Db
  inFlight : Option WebhookDelivery

inductive WorkerAct where
  /-- A call starts: it claims a delivery, if one is ready. -/
  | claim (now : Instant)
  /-- The call records what its post came back with, and returns. -/
  | finish (r : Reply)
  /-- The process stops, and the next start recovers. -/
  | restart (now : Instant)
  /-- Another party queues deliveries. -/
  | queue (now : Instant) (addressIds : List ℕ)
  /-- Another party writes the other tables. -/
  | other (write : Db → Db)

/-- The deliveries and attempts of `db`, and everything else of `db'`. -/
def Db.keepDeliveries (db db' : Db) : Db :=
  { db' with
    webhookDeliveries := db.webhookDeliveries
    webhookDeliveryAttempts := db.webhookDeliveryAttempts }

def Worker.act (config : DeliveryConfig) (w : Worker) : WorkerAct → Worker
  | .claim now =>
    match w.inFlight with
    -- One call at a time.
    | some _ => w
    | none =>
      let claimed := claimReadyWebhookDelivery now.rfc3339 w.db
      ⟨claimed.2, claimed.1⟩
  | .finish r =>
    match w.inFlight with
    | none => w
    | some delivery =>
      match recordReply config delivery r w.db with
      | .ok db => ⟨db, none⟩
      -- The call returns the error; nothing was written.
      | .error _ => ⟨w.db, none⟩
  | .restart now => ⟨(recoverInterruptedWebhookDeliveries now.rfc3339 w.db).2, none⟩
  | .queue now ids => { w with db := (queueWebhookDeliveriesInTx now.rfc3339 ids w.db).2 }
  | .other write => { w with db := w.db.keepDeliveries (write w.db) }

def Worker.run (config : DeliveryConfig) (w : Worker) (acts : List WorkerAct) : Worker :=
  acts.foldl (Worker.act config) w

end ZcashPayment

import ZcashPayment.Table

/-!
The application database: its rows, its tables, and the values its columns take.

A nullable column is an option, a column with a `CHECK (… IN …)` list is an enumeration, and
an `i64` column is an integer where the code does arithmetic on it that can go below zero.
Values in zatoshis come from a `u64`, so a receipt's value is a natural number. A timestamp
is the RFC 3339 text that is stored, because that text is what the code compares.
-/

namespace ZcashPayment

/-- RFC 3339 text. -/
abbrev Timestamp := String

abbrev Bytes := List UInt8

def i64Max : ℕ := 9223372036854775807

inductive AppError where
  | invalidConfig (message : String)
  | startupIntegrity (message : String)
  | wallet (message : String)
  | database (message : String)
  | timeParse (message : String)
  deriving DecidableEq, Repr

/-- A sequence of fallible steps succeeds through a value of the first. -/
lemma bind_ok {ε α β : Type} {x : Except ε α} {f : α → Except ε β} {b : β}
    (h : (x >>= f) = .ok b) : ∃ a, x = .ok a ∧ f a = .ok b := by
  cases x with
  | error e => cases h
  | ok a => exact ⟨a, rfl, h⟩

lemma map_ok {ε α β : Type} {x : Except ε α} {f : α → β} {b : β} (h : x.map f = .ok b) :
    ∃ a, x = .ok a ∧ f a = b := by
  cases x with
  | error e => cases h
  | ok a => exact ⟨a, rfl, Except.ok.inj h⟩

inductive Pool | orchard | ironwood | sapling
  deriving DecidableEq, Repr

inductive ReceiptKind | mined | mempool
  deriving DecidableEq, Repr

inductive ReceiptState | active | revoked
  deriving DecidableEq, Repr

inductive DirtyState | clean | dirty | queuedForWebhook
  deriving DecidableEq, Repr

inductive DeliveryState | queued | sending | retryWait | succeeded | permanentFailure
  deriving DecidableEq, Repr

inductive SyncState
  | starting | synced | catchingUp | blockedScanningKeyMaterial | blockedLightwalletdEndpoint
  deriving DecidableEq, Repr

/-- The three parts of the text `txid:pool:output_index`. A txid is hexadecimal, so the parts
and the text determine each other. -/
structure ReceiptUid where
  txidHex : String
  pool : Pool
  outputIndex : ℕ
  deriving DecidableEq, Repr

/-- The two parts of the text `zcash:<address_id>:v<state_version>`. -/
structure EventId where
  addressId : ℕ
  stateVersion : ℕ
  deriving DecidableEq, Repr

def EventId.text (e : EventId) : String := s!"zcash:{e.addressId}:v{e.stateVersion}"

structure IssuedAddress where
  addressId : ℕ
  unifiedAddress : String
  deriving DecidableEq, Repr

/-- An active receiver of an issued address. -/
structure AddressReceiver where
  addressId : ℕ
  pool : Pool
  receiverFingerprint : Bytes
  deriving DecidableEq, Repr

/-- A row of `address_receipts_recent`. -/
structure ReceiptRow where
  addressId : ℕ
  txidHex : String
  pool : Pool
  receiptUid : ReceiptUid
  valueZat : ℕ
  minedHeight : ℤ
  confirmationDepth : ℤ
  eligibleForWebhook : Bool
  receiptKind : ReceiptKind
  firstObservedAt : Timestamp
  observedAt : Timestamp
  receiptState : ReceiptState
  stateVersion : ℕ
  deriving DecidableEq, Repr

/-- A row of `address_totals`. The column `received_by_confirmations` holds the list as JSON
text; two texts are equal exactly when the lists are. -/
structure AddressTotals where
  addressId : ℕ
  finalizedThroughHeight : ℤ := 0
  finalizedTotalZat : ℤ := 0
  recentTotalZat : ℤ := 0
  currentTotalZat : ℤ := 0
  lastComputedTipHeight : ℤ := 0
  dirtyState : DirtyState := .clean
  dirtyReason : Option String := none
  dirtySinceHeight : Option ℤ := none
  stateVersion : ℕ := 0
  lastChangedAt : Timestamp
  lastNotifiedTotalZat : ℤ := 0
  lastNotifiedEventId : Option EventId := none
  lastNotifiedAt : Option Timestamp := none
  receivedByConfirmations : Option (List ℤ) := none
  lastNotifiedByConfirmations : Option (List ℤ) := none
  deriving DecidableEq, Repr

/-- The JSON object that is posted, field by field. -/
structure WebhookBody where
  eventId : String
  paymentSource : String := "zcash"
  address : String
  totalReceived : String
  observedAt : Timestamp
  receivedByConfirmations : Option (List String)
  deriving DecidableEq, Repr

structure WebhookDelivery where
  deliveryId : ℕ
  addressId : ℕ
  eventId : EventId
  totalReceivedZat : ℤ
  observedAt : Timestamp
  requestBodyJson : WebhookBody
  deliveryState : DeliveryState
  attemptCount : ℕ := 0
  nextAttemptAt : Option Timestamp := none
  lastHttpStatus : Option ℤ := none
  lastResponseBody : Option String := none
  lastAttemptAt : Option Timestamp := none
  receivedByConfirmations : Option (List ℤ)
  deriving DecidableEq, Repr

structure WebhookDeliveryAttempt where
  deliveryId : ℕ
  attemptedAt : Timestamp
  httpStatus : Option ℤ
  responseBody : Option String
  transportError : Option String
  durationMs : ℤ
  deriving DecidableEq, Repr

structure ServiceMetadata where
  lastSeenTipHeight : ℤ := 0
  lastScannedHeight : ℤ := 0
  lastStableTipHeight : ℤ := 0
  currentSyncState : SyncState := .starting
  currentScanEpoch : ℕ := 0
  catchUpEnteredAt : Option Timestamp := none
  catchUpExitedAt : Option Timestamp := none
  webhookReportConfirmations : ℕ
  finalityConfirmations : ℕ
  requiredConfirmations : Option ℕ := none
  deriving DecidableEq, Repr

structure SyncStateTransition where
  fromState : SyncState
  toState : SyncState
  reason : String
  tipHeight : ℤ
  scannedHeight : ℤ
  scanEpoch : ℕ
  detectedAt : Timestamp
  deriving DecidableEq, Repr

structure ReorgEvent where
  scanEpoch : ℕ
  detectedAt : Timestamp
  previousTipHeight : ℤ
  newTipHeight : ℤ
  rewindHeight : ℤ
  affectedAddressCount : ℕ
  notes : String
  deriving DecidableEq, Repr

structure Db where
  issuedAddresses : Table IssuedAddress.addressId
  addressReceivers : List AddressReceiver
  receipts : Table ReceiptRow.receiptUid
  addressTotals : Table AddressTotals.addressId
  webhookDeliveries : Table WebhookDelivery.deliveryId
  webhookDeliveryAttempts : List WebhookDeliveryAttempt
  /-- The single row of `service_metadata`, once it is written. -/
  metadata : Option ServiceMetadata
  syncStateTransitions : List SyncStateTransition
  reorgEvents : List ReorgEvent

namespace Db

/-- A database nothing has been written to yet. -/
def fresh : Db where
  issuedAddresses := .empty
  addressReceivers := []
  receipts := .empty
  addressTotals := .empty
  webhookDeliveries := .empty
  webhookDeliveryAttempts := []
  metadata := none
  syncStateTransitions := []
  reorgEvents := []

/-- The receipt row with a uid. -/
abbrev row (db : Db) (u : ReceiptUid) : Option ReceiptRow := db.receipts.find? u

/-- Whether an address id satisfies the foreign keys. -/
def issued (db : Db) (a : ℕ) : Bool := (db.issuedAddresses.find? a).isSome

end Db

/-- What a request hands over for a new address: its text and the receivers it stands for. -/
structure NewAddress where
  unifiedAddress : String
  receivers : List (Pool × Bytes)
  deriving DecidableEq, Repr

/-- The next value of an `INTEGER PRIMARY KEY`. -/
def nextRowId (ids : List ℕ) : ℕ := ids.foldl max 0 + 1

lemma le_foldl_max (ids : List ℕ) (m : ℕ) :
    m ≤ ids.foldl max m ∧ ∀ i ∈ ids, i ≤ ids.foldl max m := by
  induction ids generalizing m with
  | nil => simp
  | cons a ids ih =>
    obtain ⟨h1, h2⟩ := ih (max m a)
    refine ⟨le_trans (le_max_left m a) h1, fun i hi => ?_⟩
    rcases List.mem_cons.mp hi with rfl | hi
    · exact le_trans (le_max_right m i) h1
    · exact h2 i hi

lemma lt_nextRowId {ids : List ℕ} {i : ℕ} (h : i ∈ ids) : i < nextRowId ids := by
  have := (le_foldl_max ids 0).2 i h
  unfold nextRowId
  omega

lemma nextRowId_notMem (ids : List ℕ) : nextRowId ids ∉ ids :=
  fun h => (lt_nextRowId h).ne rfl

end ZcashPayment

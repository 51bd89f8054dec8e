import ZcashPayment.Schema
import ZcashPayment.SqlTable

/-!
Opening the app database.

`AppDb::open` creates the tables that are missing and brings the others to the current schema,
in four steps: a batch of `CREATE … IF NOT EXISTS`, the two columns of mempool receipts, the
`ironwood` pool, and the columns of `received_by_confirmations`. Only the third step is one
transaction; the others leave what they have done when a later one fails. A table that is
missing is one that the batch creates: an empty table of the current shape.
-/

namespace ZcashPayment

/-- A row of `address_receivers`. -/
structure ReceiverRow where
  receiverId : ℕ
  addressId : ℕ
  pool : Pool
  receiverEncoding : String
  receiverFingerprint : Bytes
  isActive : ℤ
  createdAt : Timestamp
  deriving DecidableEq, Repr

/-- The columns every version of `address_receipts_recent` has. -/
structure StoredReceipt where
  receiptId : ℕ
  addressId : ℕ
  txid : String
  pool : Pool
  receiptUid : String
  valueZat : ℤ
  minedHeight : ℤ
  confirmationDepth : ℤ
  eligibleForWebhook : ℤ
  observedAt : Timestamp
  receiptState : ReceiptState
  stateVersion : ℤ
  deriving DecidableEq, Repr

/-- The tables the migration looks at. `M`, `T` and `D` are what every version of a row of
`service_metadata`, `address_totals` and `webhook_deliveries` holds. -/
structure AppFile (M T D : Type) where
  addressReceivers : List ReceiverRow
  /-- The `CHECK` of `address_receivers.pool` names `'ironwood'`. -/
  receiversIronwood : Bool
  addressReceiptsRecent : SqlTable StoredReceipt
  receiptsIronwood : Bool
  /-- The index `address_receipts_recent_mempool_txid_idx` exists. -/
  mempoolTxidIndex : Bool
  serviceMetadata : SqlTable M
  /-- The column `app_schema_version` of the metadata row. -/
  appSchemaVersion : Option ℤ
  addressTotals : SqlTable T
  webhookDeliveries : SqlTable D

variable {M T D : Type}

def currentSchemaVersion : ℤ := 2

/-! ### Constraints -/

/-- `UNIQUE(pool, k)` -/
def UniquePerPool {κ : Type} (k : ReceiverRow → κ) (rows : List ReceiverRow) : Prop :=
  (rows.map fun r => (r.pool, k r)).Nodup

instance {κ : Type} [DecidableEq κ] (k : ReceiverRow → κ) (rows : List ReceiverRow) :
    Decidable (UniquePerPool k rows) :=
  inferInstanceAs (Decidable (List.Nodup _))

/-- The keys of `address_receivers`. -/
def ReceiversUnique (rows : List ReceiverRow) : Prop :=
  (rows.map (·.receiverId)).Nodup ∧ UniquePerPool (·.addressId) rows ∧
    UniquePerPool (·.receiverEncoding) rows ∧ UniquePerPool (·.receiverFingerprint) rows

instance (rows : List ReceiverRow) : Decidable (ReceiversUnique rows) :=
  inferInstanceAs (Decidable (_ ∧ _))

def receiptKinds : List Cell := [.text "mined", .text "mempool"]

/-- The constraints of the current `address_receipts_recent`. -/
def ReceiptsSound (rows : List (StoredReceipt × (String → Cell))) : Prop :=
  (rows.map (·.1.receiptId)).Nodup ∧ (rows.map (·.1.receiptUid)).Nodup ∧
    (∀ r ∈ rows, r.2 "receipt_kind" ∈ receiptKinds) ∧
    ∀ r ∈ rows, r.2 "first_observed_at" ≠ .null

instance (rows : List (StoredReceipt × (String → Cell))) : Decidable (ReceiptsSound rows) :=
  inferInstanceAs (Decidable (_ ∧ _))

/-! ### The steps -/

def noSuchColumn : AppError := .database "no such column: receipt_kind"

def constraintFailed (table : String) : AppError := .database ("constraint failed: " ++ table)

/-- The batch: of its statements, the index over `receipt_kind` is the one that can fail. -/
def createTables (f : AppFile M T D) : Except AppError (AppFile M T D) :=
  if f.mempoolTxidIndex || "receipt_kind" ∈ f.addressReceiptsRecent.columns then
    .ok { f with mempoolTxidIndex := true }
  else .error noSuchColumn

/-- `UPDATE … SET first_observed_at = observed_at WHERE first_observed_at = ''` -/
def fillFirstObserved (t : SqlTable StoredReceipt) : SqlTable StoredReceipt :=
  { t with rows := t.rows.map fun r =>
      (r.1, if r.2 "first_observed_at" = .text "" then
          Function.update r.2 "first_observed_at" (.text r.1.observedAt)
        else r.2) }

def ensureMempoolColumns (f : AppFile M T D) : AppFile M T D :=
  let receipts := f.addressReceiptsRecent.ensureColumn "receipt_kind" (.text "mined")
  { f with
    addressReceiptsRecent :=
      if "first_observed_at" ∈ receipts.columns then receipts
      else fillFirstObserved (receipts.addColumn "first_observed_at" (.text ""))
    mempoolTxidIndex := true }

/-- The orchard receivers of addresses without an ironwood receiver. -/
def orchardOnly (rows : List ReceiverRow) : List ReceiverRow :=
  rows.filter fun r => r.pool = .orchard ∧
    ¬rows.any fun s => s.addressId = r.addressId ∧ s.pool = .ironwood

/-- The rows that are inserted, with ids after all others. -/
def ironwoodCopies (rows : List ReceiverRow) : List ReceiverRow :=
  (orchardOnly rows).zipIdx.map fun ri =>
    { ri.1 with
      receiverId := nextRowId (rows.map (·.receiverId)) + ri.2
      pool := .ironwood }

def copyOrchardReceiversToIronwood (f : AppFile M T D) : Except AppError (AppFile M T D) :=
  let rows := f.addressReceivers ++ ironwoodCopies f.addressReceivers
  if ReceiversUnique rows then .ok { f with addressReceivers := rows }
  else .error (constraintFailed "address_receivers")

def rebuildReceivers (f : AppFile M T D) : Except AppError (AppFile M T D) :=
  if f.receiversIronwood then .ok f
  else if ReceiversUnique f.addressReceivers then .ok { f with receiversIronwood := true }
  else .error (constraintFailed "address_receivers")

def rebuildReceipts (f : AppFile M T D) : Except AppError (AppFile M T D) :=
  let receipts := f.addressReceiptsRecent.copy ["receipt_kind", "first_observed_at"]
  if f.receiptsIronwood then .ok f
  else if ReceiptsSound receipts.rows then
    .ok { f with
      addressReceiptsRecent := receipts
      receiptsIronwood := true
      mempoolTxidIndex := true }
  else .error (constraintFailed "address_receipts_recent")

def raiseSchemaVersion (f : AppFile M T D) : AppFile M T D :=
  { f with appSchemaVersion := f.appSchemaVersion.map fun v =>
      if v < currentSchemaVersion then currentSchemaVersion else v }

/-- One transaction. -/
def ensureIronwoodPoolSupport (f : AppFile M T D) : Except AppError (AppFile M T D) := do
  let f ← rebuildReceivers f
  let f ← rebuildReceipts f
  let f ← copyOrchardReceiversToIronwood f
  return raiseSchemaVersion f

def ensureReceivedByConfirmationsColumns (f : AppFile M T D) : AppFile M T D :=
  { f with
    serviceMetadata := f.serviceMetadata.ensureColumn "required_confirmations" .null
    addressTotals := (f.addressTotals.ensureColumn "received_by_confirmations" .null).ensureColumn
      "last_notified_by_confirmations" .null
    webhookDeliveries := f.webhookDeliveries.ensureColumn "received_by_confirmations" .null }

/-- What is left in the file, and what `open` returns. -/
def initializeSchema (f : AppFile M T D) : AppFile M T D × Except AppError Unit :=
  match createTables f with
  | .error e => (f, .error e)
  | .ok f =>
    let f := ensureMempoolColumns f
    match ensureIronwoodPoolSupport f with
    | .error e => (f, .error e)
    | .ok f => (ensureReceivedByConfirmationsColumns f, .ok ())

end ZcashPayment

import ZcashPayment.Totals

/-!
The five operations that write receipt rows.

Each runs in one transaction: it changes rows, collects the addresses it takes to be
affected, and recomputes the totals of those addresses only. What has been changed and
collected when the recomputation starts is a `Pending`; the operations differ in how they
build it. A failed statement rolls the transaction back, so an operation that returns an
error has no database to return.
-/

namespace ZcashPayment

/-- A receipt as it is handed to the ledger. -/
structure AttributedScannedReceipt where
  addressId : ℕ
  txidHex : String
  pool : Pool
  receiptUid : ReceiptUid
  valueZat : ℕ
  minedHeight : ℤ
  confirmationDepth : ℤ
  eligibleForWebhook : Bool
  receiptKind : ReceiptKind
  firstObservedAt : Timestamp
  lastObservedAt : Timestamp
  deriving DecidableEq, Repr

structure ReceiptRangeReconciliation where
  affectedAddressIds : List ℕ
  insertedReceiptCount : ℕ := 0
  revokedReceiptCount : ℕ := 0
  reactivatedReceiptCount : ℕ := 0
  deriving DecidableEq, Repr

/-- The elements of a `BTreeSet` filled with `ids`, in its order. -/
def idSet (ids : List ℕ) : List ℕ := ids.dedup.insertionSort (· ≤ ·)

@[simp] lemma mem_idSet {ids : List ℕ} {a : ℕ} : a ∈ idSet ids ↔ a ∈ ids := by
  simp [idSet]

/-- `entry(a).and_modify(min h).or_insert(h)` -/
def noteMin (since : ℕ → Option ℤ) (a : ℕ) (h : ℤ) : ℕ → Option ℤ :=
  fun b => if b = a then some ((since a).elim h (min · h)) else since b

/-- `entry(a).or_insert(h)` -/
def noteAbsent (since : ℕ → Option ℤ) (a : ℕ) (h : ℤ) : ℕ → Option ℤ :=
  fun b => if b = a then some ((since a).getD h) else since b

def noNotes : ℕ → Option ℤ := fun _ => none

def foreignKeyError : AppError := .database "FOREIGN KEY constraint failed"

/-- What an operation has changed and collected when it recomputes the totals. -/
structure Pending where
  receipts : Table ReceiptRow.receiptUid
  affected : List ℕ
  since : ℕ → Option ℤ

def Pending.commit (p : Pending) (tip : ℤ) (finality : ℕ) (now : Timestamp) (label : String)
    (db : Db) : Except AppError Db :=
  recomputeAddressTotals { db with receipts := p.receipts } p.affected tip finality now label
    p.since

/-! ### Writing a receipt -/

/-- The values of the `INSERT`. -/
def insertedRow (e : AttributedScannedReceipt) : ReceiptRow where
  addressId := e.addressId
  txidHex := e.txidHex
  pool := e.pool
  receiptUid := e.receiptUid
  valueZat := e.valueZat
  minedHeight := e.minedHeight
  confirmationDepth := e.confirmationDepth
  eligibleForWebhook := e.eligibleForWebhook
  receiptKind := e.receiptKind
  firstObservedAt := e.firstObservedAt
  observedAt := e.lastObservedAt
  receiptState := .active
  stateVersion := 0

/-- The `was_changed` test: the columns it compares. -/
def changedBy (old : ReceiptRow) (e : AttributedScannedReceipt) : Bool :=
  old.addressId ≠ e.addressId || old.minedHeight ≠ e.minedHeight ||
    old.valueZat ≠ e.valueZat || old.confirmationDepth ≠ e.confirmationDepth ||
    old.eligibleForWebhook ≠ e.eligibleForWebhook || old.receiptKind ≠ e.receiptKind

/-- The `ON CONFLICT(receipt_uid) DO UPDATE`. -/
def mergedRow (e : AttributedScannedReceipt) (old : ReceiptRow) : ReceiptRow :=
  { insertedRow e with
    receiptUid := old.receiptUid
    firstObservedAt :=
      if old.receiptKind = .mempool ∧ e.receiptKind = .mined then old.firstObservedAt
      else e.firstObservedAt
    stateVersion :=
      if old.receiptState ≠ .active ∨ changedBy old e then old.stateVersion + 1
      else old.stateVersion }

def upsertReceipt (t : Table ReceiptRow.receiptUid) (e : AttributedScannedReceipt) :
    Table ReceiptRow.receiptUid :=
  t.upsert (insertedRow e) (mergedRow e) fun _ => rfl

/-- `receipt_state = 'revoked', state_version = state_version + 1, observed_at = now` -/
def revokedRow (now : Timestamp) (r : ReceiptRow) : ReceiptRow :=
  { r with receiptState := .revoked, stateVersion := r.stateVersion + 1, observedAt := now }

/-- Revoke the rows a predicate selects. -/
def revokeWhere (t : Table ReceiptRow.receiptUid) (now : Timestamp) (p : ReceiptRow → Bool) :
    Table ReceiptRow.receiptUid :=
  t.update (fun r => if p r then revokedRow now r else r) fun r => by split_ifs <;> rfl

def isActiveMined (r : ReceiptRow) : Bool :=
  r.receiptKind = .mined && r.receiptState = .active

/-! ### apply_attributed_receipts -/

def applyPending (receipts : List AttributedScannedReceipt) (db : Db) : Pending where
  receipts := receipts.foldl upsertReceipt db.receipts
  affected := idSet (receipts.map (·.addressId))
  since := receipts.foldl (fun since r => noteMin since r.addressId r.minedHeight) noNotes

def applyAttributedReceipts (receipts : List AttributedScannedReceipt) (tip : ℤ)
    (finality : ℕ) (now : Timestamp) (db : Db) : Except AppError (List ℕ × Db) :=
  if receipts.isEmpty then .ok ([], db)
  else if receipts.all fun r => db.issued r.addressId then do
    let p := applyPending receipts db
    let db' ← p.commit tip finality now "receipt_observed" db
    return (p.affected, db')
  else .error foreignKeyError

/-! ### advance_receipt_maturity -/

/-- The rows whose stored depth or eligibility is not the one at `tip`. -/
def immature (tip : ℤ) (threshold : ℕ) (r : ReceiptRow) : Bool :=
  isActiveMined r && (r.confirmationDepth ≠ depthAt tip r.minedHeight ||
    r.eligibleForWebhook ≠ decide (depthAt tip r.minedHeight ≥ threshold))

def maturedRow (tip : ℤ) (threshold : ℕ) (r : ReceiptRow) : ReceiptRow :=
  { r with
    confirmationDepth := depthAt tip r.minedHeight
    eligibleForWebhook := depthAt tip r.minedHeight ≥ threshold }

/-- The rows that become eligible, which date the change. -/
def matures (tip : ℤ) (threshold : ℕ) (r : ReceiptRow) : Bool :=
  isActiveMined r && !r.eligibleForWebhook && depthAt tip r.minedHeight ≥ threshold

def maturityPending (tip : ℤ) (threshold : ℕ) (db : Db) : Pending where
  receipts := db.receipts.update
    (fun r => if immature tip threshold r then maturedRow tip threshold r else r)
    (fun r => by split_ifs <;> rfl)
  affected := idSet ((db.receipts.rows.filter (immature tip threshold)).map (·.addressId))
  since := (db.receipts.rows.filter (matures tip threshold)).foldl
    (fun since r => noteMin since r.addressId r.minedHeight) noNotes

def advanceReceiptMaturity (tip : ℤ) (webhookReportConfirmations finality : ℕ)
    (now : Timestamp) (db : Db) : Except AppError (List ℕ × Db) :=
  let p := maturityPending tip webhookReportConfirmations db
  if p.affected.isEmpty then .ok ([], db)
  else do
    let db' ← p.commit tip finality now "receipt_matured" db
    return (p.affected, db')

/-! ### reconcile_attributed_receipts_in_range -/

/-- `scanned_by_uid`: of the receipts with one uid the last one stays. -/
def scannedByUid : List AttributedScannedReceipt → List AttributedScannedReceipt
  | [] => []
  | r :: rs =>
    if rs.any fun r' => r'.receiptUid = r.receiptUid then scannedByUid rs
    else r :: scannedByUid rs

def inRange (startHeight endHeight : ℤ) (r : ReceiptRow) : Bool :=
  startHeight ≤ r.minedHeight && r.minedHeight ≤ endHeight

/-- The rows in the range, and the mempool rows of their transactions. -/
def existingByUid (rows : List ReceiptRow) (startHeight endHeight : ℤ) : List ReceiptRow :=
  rows.filter fun r => inRange startHeight endHeight r ||
    (r.receiptKind = .mempool &&
      rows.any fun r' => inRange startHeight endHeight r' && r'.txidHex = r.txidHex)

def priorOf (existing : List ReceiptRow) (u : ReceiptUid) : Option ReceiptRow :=
  existing.find? fun r => r.receiptUid = u

/-- Active mined rows of the range that the scan did not find. -/
def missingFrom (scanned : List AttributedScannedReceipt) (startHeight endHeight : ℤ)
    (r : ReceiptRow) : Bool :=
  inRange startHeight endHeight r && isActiveMined r &&
    !scanned.any fun e => e.receiptUid = r.receiptUid

/-- The addresses one scanned receipt touches, given the row that was there before. -/
def touchedBy (prior : Option ReceiptRow) (e : AttributedScannedReceipt) : List ℕ :=
  match prior with
  | none => [e.addressId]
  | some old =>
    if old.receiptState ≠ .active || changedBy old e then [e.addressId, old.addressId] else []

def reconcilePending (receipts : List AttributedScannedReceipt) (startHeight endHeight : ℤ)
    (now : Timestamp) (db : Db) : Pending :=
  let scanned := scannedByUid receipts
  let existing := existingByUid db.receipts.rows startHeight endHeight
  let missing := missingFrom scanned startHeight endHeight
  let revoked := db.receipts.rows.filter missing
  let since := revoked.foldl (fun since r => noteMin since r.addressId r.minedHeight) noNotes
  { receipts := scanned.foldl upsertReceipt (revokeWhere db.receipts now missing)
    affected := idSet (revoked.map (·.addressId) ++
      scanned.flatMap fun e => touchedBy (priorOf existing e.receiptUid) e)
    since := scanned.foldl
      (fun since e =>
        match priorOf existing e.receiptUid with
        | none => noteMin since e.addressId e.minedHeight
        | some old =>
          if old.receiptState ≠ .active || changedBy old e then
            noteMin (noteMin since e.addressId e.minedHeight) old.addressId old.minedHeight
          else since)
      since }

def reconcileAttributedReceiptsInRange (receipts : List AttributedScannedReceipt)
    (startHeight endHeight tip : ℤ) (finality : ℕ) (now : Timestamp) (db : Db) :
    Except AppError (ReceiptRangeReconciliation × Db) :=
  let scanned := scannedByUid receipts
  let existing := existingByUid db.receipts.rows startHeight endHeight
  if scanned.all fun r => db.issued r.addressId then do
    let p := reconcilePending receipts startHeight endHeight now db
    let db' ← p.commit tip finality now "reorg_reconcile" db
    return ({
      affectedAddressIds := p.affected
      insertedReceiptCount := scanned.countP fun e => (priorOf existing e.receiptUid).isNone
      revokedReceiptCount := db.receipts.rows.countP (missingFrom scanned startHeight endHeight)
      reactivatedReceiptCount := scanned.countP fun e =>
        (priorOf existing e.receiptUid).any fun old => old.receiptState ≠ .active }, db')
  else .error foreignKeyError

/-! ### revoke_mined_receipts_above_tip -/

def aboveTip (tip : ℤ) (r : ReceiptRow) : Bool := isActiveMined r && r.minedHeight > tip

def revokePending (tip : ℤ) (now : Timestamp) (db : Db) : Pending :=
  let revoked := db.receipts.rows.filter (aboveTip tip)
  { receipts := revokeWhere db.receipts now (aboveTip tip)
    affected := idSet (revoked.map (·.addressId))
    since := revoked.foldl (fun since r => noteMin since r.addressId r.minedHeight) noNotes }

def revokeMinedReceiptsAboveTip (tip : ℤ) (finality : ℕ) (now : Timestamp) (db : Db) :
    Except AppError (ReceiptRangeReconciliation × Db) :=
  let p := revokePending tip now db
  if p.affected.isEmpty then .ok ({ affectedAddressIds := [] }, db)
  else do
    let db' ← p.commit tip finality now "reorg_reconcile" db
    return ({
      affectedAddressIds := p.affected
      revokedReceiptCount := db.receipts.rows.countP (aboveTip tip) }, db')

/-! ### reconcile_mempool_snapshot -/

def isActiveMempool (r : ReceiptRow) : Bool :=
  r.receiptKind = .mempool && r.receiptState = .active

def activeMempoolTxids (db : Db) : List String :=
  ((db.receipts.rows.filter isActiveMempool).map (·.txidHex)).dedup

/-- `webhook_report_confirmations = 0 AND first_observed_at > fresh_cutoff` -/
def isFresh (webhookReportConfirmations : ℕ) (freshCutoff firstObservedAt : Timestamp) : Bool :=
  webhookReportConfirmations = 0 && freshCutoff < firstObservedAt

/-- The values of the mempool `INSERT`: height and depth are stored as zero. -/
def mempoolRow (now : Timestamp) (firstObservedAt : Timestamp) (eligible : Bool)
    (e : AttributedScannedReceipt) : ReceiptRow :=
  { insertedRow e with
    minedHeight := 0
    confirmationDepth := 0
    eligibleForWebhook := eligible
    receiptKind := .mempool
    firstObservedAt
    observedAt := now }

/-- The mempool `ON CONFLICT`: it keys on the uid alone, whatever the row's kind. -/
def mempoolMerged (new old : ReceiptRow) : ReceiptRow :=
  { new with
    receiptUid := old.receiptUid
    stateVersion :=
      if old.receiptState ≠ .active ∨ old.addressId ≠ new.addressId ∨
          old.valueZat ≠ new.valueZat ∨ old.eligibleForWebhook ≠ new.eligibleForWebhook ∨
          old.firstObservedAt ≠ new.firstObservedAt then old.stateVersion + 1
      else old.stateVersion }

/-- What one receipt of the snapshot writes, given the mempool row that was there before. -/
def mempoolUpsertRow (webhookReportConfirmations : ℕ) (freshCutoff now : Timestamp)
    (prior : Option ReceiptRow) (e : AttributedScannedReceipt) : ReceiptRow :=
  let first := prior.elim e.firstObservedAt (·.firstObservedAt)
  mempoolRow now first (isFresh webhookReportConfirmations freshCutoff first) e

def upsertMempool (webhookReportConfirmations : ℕ) (freshCutoff now : Timestamp)
    (existing : List ReceiptRow) (t : Table ReceiptRow.receiptUid)
    (e : AttributedScannedReceipt) : Table ReceiptRow.receiptUid :=
  let new := mempoolUpsertRow webhookReportConfirmations freshCutoff now
    (priorOf existing e.receiptUid) e
  t.upsert new (mempoolMerged new) fun _ => rfl

/-- The addresses one receipt of the snapshot touches. -/
def mempoolTouchedBy (webhookReportConfirmations : ℕ) (freshCutoff : Timestamp)
    (prior : Option ReceiptRow) (e : AttributedScannedReceipt) : List ℕ :=
  match prior with
  | none => [e.addressId]
  | some old =>
    if old.receiptState ≠ .active || old.addressId ≠ e.addressId ||
        old.minedHeight ≠ e.minedHeight || old.valueZat ≠ e.valueZat ||
        old.confirmationDepth ≠ e.confirmationDepth ||
        old.eligibleForWebhook ≠
          isFresh webhookReportConfirmations freshCutoff old.firstObservedAt then
      [e.addressId]
    else []

/-- Active mempool rows whose transaction is not in the snapshot. -/
def leftMempool (currentMempoolTxids : List String) (r : ReceiptRow) : Bool :=
  isActiveMempool r && !currentMempoolTxids.contains r.txidHex

/-- Active mempool rows whose stored eligibility is not the one at the cutoff. -/
def staleFreshness (webhookReportConfirmations : ℕ) (freshCutoff : Timestamp)
    (r : ReceiptRow) : Bool :=
  isActiveMempool r &&
    r.eligibleForWebhook ≠ isFresh webhookReportConfirmations freshCutoff r.firstObservedAt

def refreshedRow (webhookReportConfirmations : ℕ) (freshCutoff now : Timestamp)
    (r : ReceiptRow) : ReceiptRow :=
  { r with
    confirmationDepth := 0
    eligibleForWebhook := isFresh webhookReportConfirmations freshCutoff r.firstObservedAt
    observedAt := now }

def mempoolPending (freshCutoff : Timestamp) (currentMempoolTxids : List String)
    (receipts : List AttributedScannedReceipt) (now : Timestamp)
    (webhookReportConfirmations : ℕ) (revokeMissing : Bool) (db : Db) : Pending :=
  let existing := db.receipts.rows.filter fun r => r.receiptKind = .mempool
  let left := fun r => revokeMissing && leftMempool currentMempoolTxids r
  let revoked := db.receipts.rows.filter left
  let upserted := receipts.foldl
    (upsertMempool webhookReportConfirmations freshCutoff now existing)
    (revokeWhere db.receipts now left)
  let stale := staleFreshness webhookReportConfirmations freshCutoff
  let touched := receipts.flatMap fun e =>
    mempoolTouchedBy webhookReportConfirmations freshCutoff (priorOf existing e.receiptUid) e
  let expired := (upserted.rows.filter stale).map (·.addressId)
  let since := revoked.foldl (fun since r => noteMin since r.addressId r.minedHeight) noNotes
  { receipts := upserted.update
      (fun r => if stale r then refreshedRow webhookReportConfirmations freshCutoff now r else r)
      (fun r => by split_ifs <;> rfl)
    affected := idSet (revoked.map (·.addressId) ++ touched ++ expired)
    since := (touched ++ expired).foldl (fun since a => noteAbsent since a 0) since }

/-- `mempoolFreshCutoff now` is the text of the instant 24 hours before `now`; it fails on a
text that is no timestamp. -/
def reconcileMempoolSnapshot (mempoolFreshCutoff : Timestamp → Except AppError Timestamp)
    (currentMempoolTxids : List String) (receipts : List AttributedScannedReceipt)
    (now : Timestamp) (tip : ℤ) (finality webhookReportConfirmations : ℕ)
    (revokeMissing : Bool) (db : Db) : Except AppError (ReceiptRangeReconciliation × Db) := do
  let freshCutoff ← mempoolFreshCutoff now
  let existing := db.receipts.rows.filter fun r => r.receiptKind = .mempool
  if receipts.all fun r => db.issued r.addressId then
    let p := mempoolPending freshCutoff currentMempoolTxids receipts now
      webhookReportConfirmations revokeMissing db
    let db' ← p.commit tip finality now "mempool_reconcile" db
    return ({
      affectedAddressIds := p.affected
      insertedReceiptCount := receipts.countP fun e => (priorOf existing e.receiptUid).isNone
      revokedReceiptCount := db.receipts.rows.countP fun r =>
        revokeMissing && leftMempool currentMempoolTxids r
      reactivatedReceiptCount := receipts.countP fun e =>
        (priorOf existing e.receiptUid).any fun old => old.receiptState ≠ .active }, db')
  else .error foreignKeyError

end ZcashPayment

import ZcashPayment.Program
import ZcashPayment.Scan
import ZcashPayment.Deliveries

/-!
A sync iteration.

The iteration is a program over the database and what surrounds it. Everything it does from
the outside takes a moment: it waits for an answer of the node, reads the clock, or runs a
database transaction. At each moment the surroundings decide what the node answers, what the
clock shows, which addresses were issued meanwhile, and whether the process is killed. One
`Env` therefore stands for one interleaving of everything that happens around a whole run.

Batches are downloaded ahead in the code but handed over in height order, and the first
failed download ends the hand-over; a batch is answered here when it is handed over.
-/

namespace ZcashPayment

/-! ### The surroundings -/

/-- What is waited for when an iteration returns an error. -/
inductive Await | database | tip | overlap | batch | mempool
  deriving DecidableEq, Repr

/-- Why an iteration ends early. -/
inductive Halt where
  | failed (awaiting : Await) (error : AppError)
  | killed
  /-- The batches have no end: the last height is the largest `u32`. -/
  | stuck
  deriving DecidableEq, Repr

/-- The surroundings, moment by moment. -/
structure Env where
  /-- How many moments pass before the next one the iteration sees. -/
  delay : ℕ → ℕ
  killed : ℕ → Bool
  clock : ℕ → Timestamp
  /-- The instant 24 hours before a timestamp, as text. -/
  mempoolFreshCutoff : Timestamp → Except AppError Timestamp
  /-- The addresses issued since the last moment that was seen. -/
  minted : ℕ → List NewAddress
  latestBlockHeight : ℕ → Except AppError (Fin (2 ^ 32))
  compactBlocks : ℕ → ScanBatch → Except AppError (List CompactBlock)
  mempoolTxids : ℕ → Except AppError (List Bytes)
  rawTransactions : ℕ → List Bytes → Except AppError (List WalletTx)

/-- An answer the node gave. -/
inductive Answer where
  | sampledTip (height : ℕ)
  | latestTip (height : ℕ)
  | compactBlocks (batch : ScanBatch) (blocks : List CompactBlock)
  | mempoolTxids (txids : List Bytes)
  | rawTransactions (txids : List Bytes) (transactions : List WalletTx)

/-- One attribution of scanned receipts, with the receivers that were known when it ran. -/
structure Scan where
  find : Pool → Bytes → Option ℕ
  receipts : List IncomingReceipt

/-- The database and the moment, with a record of what has happened. -/
structure World where
  db : Db
  time : ℕ
  /-- The answers and the attributions of this iteration. -/
  answers : List (ℕ × Answer)
  scans : List Scan
  /-- The databases that were committed, the newest first. -/
  history : List (ℕ × Db)

abbrev SyncM := Prog World Halt

open Prog

variable (env : Env) (config : Config)

/-- The next moment. -/
def tick : SyncM ℕ := fun w =>
  let t := w.time + 1 + env.delay w.time
  let w' := { w with time := t, db := issueAll (env.clock t) (env.minted t) w.db }
  (if env.killed t then .error .killed else .ok t, w')

def logAnswer (t : ℕ) (answer : Answer) : SyncM Unit := fun w =>
  (.ok (), { w with answers := (t, answer) :: w.answers })

def logScan (scan : Scan) : SyncM Unit := fun w =>
  (.ok (), { w with scans := scan :: w.scans })

/-- Wait for an answer of the node. -/
def await {α : Type} (awaiting : Await) (ask : ℕ → Except AppError α) (answer : α → Answer) :
    SyncM α := do
  let t ← tick env
  match ask t with
  | .ok a =>
    logAnswer t (answer a)
    return a
  | .error e => stop (.failed awaiting e)

def nowUtc : SyncM Timestamp := do return env.clock (← tick env)

/-- Write the database at the moment `t`. An operation that fails leaves it as it was. -/
def commitAt {α : Type} (awaiting : Await) (t : ℕ)
    (op : Timestamp → Db → Except AppError (α × Db)) :
    SyncM α := fun w =>
  match op (env.clock t) w.db with
  | .ok (a, db) => (.ok a, { w with db, history := (t, db) :: w.history })
  | .error e => (.error (.failed awaiting e), w)

def transaction {α : Type} (awaiting : Await)
    (op : Timestamp → Db → Except AppError (α × Db)) : SyncM α := do
  commitAt env awaiting (← tick env) op

/-! ### Reading blocks -/

def queueWebhookDeliveries (awaiting : Await) (ids : List ℕ) : SyncM (List ℕ) :=
  transaction env awaiting fun now db => .ok (queueWebhookDeliveriesForDirtyAddresses now ids db)

def fetchCompactBlocksForHeightRange (awaiting : Await) (batch : ScanBatch) :
    SyncM (List CompactBlock) := do
  if batch.startHeight > batch.endHeight then
    return []
  else
    let blocks ← await env awaiting (env.compactBlocks · batch) (.compactBlocks batch)
    return blocks.insertionSort fun b b' => b.height ≤ b'.height

/-- Attribute receipts to the addresses that are issued now. -/
def attributeReceipts (awaiting : Await) (tipHeight : ℕ) (receipts : List IncomingReceipt) :
    SyncM (Timestamp × List AttributedScannedReceipt) := do
  let observedAt ← nowUtc env
  let find := findAddressIdByReceiverFingerprint (← get).db
  logScan ⟨find, receipts⟩
  match attributeScannedReceipts find tipHeight config.webhookReportConfirmations observedAt
    receipts with
  | .ok attributed => return (observedAt, attributed)
  | .error e => stop (.failed awaiting e)

/-- Fetch, scan and reconcile the heights of a batch. -/
def reconcileRange (awaiting : Await) (tipHeight : ℕ) (batch : ScanBatch) :
    SyncM ReceiptRangeReconciliation := do
  let blocks ← fetchCompactBlocksForHeightRange env awaiting batch
  let (_, attributed) ← attributeReceipts env config awaiting tipHeight (scanCompactBlocks blocks)
  transaction env awaiting fun now =>
    reconcileAttributedReceiptsInRange attributed batch.startHeight batch.endHeight tipHeight
      config.finalityConfirmations now

def reconcileOverlapBatch (tipHeight : ℕ) (batch : ScanBatch) :
    SyncM ReceiptRangeReconciliation :=
  reconcileRange env config .overlap tipHeight batch

def batchReason (batch : ScanBatch) (reconciliation : ReceiptRangeReconciliation)
    (queued : List ℕ) : String :=
  s!"catch-up scan processed compact blocks {batch.startHeight}..={batch.endHeight} " ++
    s!"with bounded download/scan pipelining, {reconciliation.insertedReceiptCount} inserted, " ++
    s!"{reconciliation.revokedReceiptCount} revoked, " ++
    s!"{reconciliation.reactivatedReceiptCount} reactivated receipts, " ++
    s!"and queued {queued.length} webhook deliveries"

/-- One turn of the pipeline's loop. -/
def scanBatch (tipHeight : ℕ) (batch : ScanBatch) : SyncM (List ℕ) := do
  let reconciliation ← reconcileRange env config .batch tipHeight batch
  let queued ← queueWebhookDeliveries env .batch reconciliation.affectedAddressIds
  let _ ← transaction env .batch fun now => recordSyncStatus .catchingUp
    (batchReason batch reconciliation queued) tipHeight batch.endHeight now
  return reconciliation.affectedAddressIds

/-- The loop over the batches; the fuel bounds their number. -/
def scanBatchesWithPipeline (tipHeight finalHeight catchUpBatchSize : ℕ) :
    ℕ → List ℕ → ScanBatch → SyncM (List ℕ × ℕ)
  | 0, _, _ => stop .stuck
  | fuel + 1, ids, batch => do
    let affected ← scanBatch env config tipHeight batch
    match nextScanBatch (saturatingAdd batch.endHeight 1) finalHeight catchUpBatchSize with
    | none => return (idSet (ids ++ affected), batch.endHeight)
    | some next =>
      scanBatchesWithPipeline tipHeight finalHeight catchUpBatchSize fuel (ids ++ affected) next

/-! ### reconcile_current_mempool -/

def hexDigit (n : ℕ) : Char := "0123456789abcdef".toList.getD n '0'

/-- Hexadecimal text of the bytes in reverse. -/
def wireTxidToDisplayHex (raw : Bytes) : String :=
  String.ofList (raw.reverse.flatMap fun b => [hexDigit (b.toNat / 16), hexDigit (b.toNat % 16)])

def fetchRawTransactionsByTxids (txids : List Bytes) : SyncM (List WalletTx) :=
  if txids.isEmpty then return []
  else await env .mempool (env.rawTransactions · txids) (.rawTransactions txids)

/-- Revoking waits until the tip is confirmed; an answer that fails defers it. -/
def confirmTip (tipHeight : ℕ) : SyncM Bool := do
  let t ← tick env
  match env.latestBlockHeight t with
  | .ok latest =>
    logAnswer t (.latestTip latest)
    return decide (latest.val ≤ tipHeight)
  | .error _ => return false

def deferOrRevoke (tipHeight : ℕ) (revokeMissing : Bool) : SyncM Bool :=
  if revokeMissing then confirmTip env tipHeight else return false

def reconcileCurrentMempool (tipHeight : ℕ) (revokeMissing : Bool) : SyncM (List ℕ) := do
  let mempoolTxids ← await env .mempool env.mempoolTxids .mempoolTxids
  let knownActiveTxids := activeMempoolTxids (← get).db
  let txidsToFetch :=
    mempoolTxids.filter fun txid => !knownActiveTxids.contains (wireTxidToDisplayHex txid)
  let rawTransactions ← fetchRawTransactionsByTxids env txidsToFetch
  let (observedAt, attributed) ← attributeReceipts env config .mempool tipHeight
    (scanMempoolTransactions rawTransactions)
  let revokeMissing ← deferOrRevoke env tipHeight revokeMissing
  let reconciliation ← transaction env .mempool fun _ =>
    reconcileMempoolSnapshot env.mempoolFreshCutoff (mempoolTxids.map wireTxidToDisplayHex)
      attributed observedAt tipHeight config.finalityConfirmations
      config.webhookReportConfirmations revokeMissing
  let _ ← queueWebhookDeliveries env .mempool reconciliation.affectedAddressIds
  return reconciliation.affectedAddressIds

/-! ### sync_with_lightwalletd_with -/

def noReconciliation : ReceiptRangeReconciliation := { affectedAddressIds := [] }

/-- `extend` on the ids and `+=` on the counts. -/
def ReceiptRangeReconciliation.merge (r s : ReceiptRangeReconciliation) :
    ReceiptRangeReconciliation where
  affectedAddressIds := idSet (r.affectedAddressIds ++ s.affectedAddressIds)
  insertedReceiptCount := r.insertedReceiptCount + s.insertedReceiptCount
  revokedReceiptCount := r.revokedReceiptCount + s.revokedReceiptCount
  reactivatedReceiptCount := r.reactivatedReceiptCount + s.reactivatedReceiptCount

/-- Revoke what is mined above a tip that has dropped below the scanned height. -/
def revokeAboveTip (lastScannedHeight : ℤ) (tipHeight : ℕ) :
    SyncM ReceiptRangeReconciliation :=
  if lastScannedHeight > tipHeight then
    transaction env .database
      (fun now => revokeMinedReceiptsAboveTip tipHeight config.finalityConfirmations now)
  else return noReconciliation

def reconcileOverlap (tipHeight : ℕ) : Option ScanBatch → SyncM ReceiptRangeReconciliation
  | some batch => reconcileOverlapBatch env config tipHeight batch
  | none => return noReconciliation

def reorgRewindHeight (lastScannedHeight : ℤ) (tipHeight : ℕ) (overlap : Option ScanBatch) : ℕ :=
  let rewind := if lastScannedHeight > tipHeight then some (saturatingAdd tipHeight 1) else none
  match rewind, overlap with
  | some height, some batch => min height batch.startHeight
  | some height, none => height
  | none, some batch => batch.startHeight
  | none, none => tipHeight

def reorgNotes (rewindHeight tipHeight : ℕ) (reorg : ReceiptRangeReconciliation)
    (queued : List ℕ) : String :=
  s!"reconciled reorg from height {rewindHeight} through tip {tipHeight} " ++
    s!"with {reorg.revokedReceiptCount} revoked, {reorg.reactivatedReceiptCount} reactivated, " ++
    s!"{reorg.insertedReceiptCount} inserted receipts; " ++
    s!"queued {queued.length} webhook deliveries"

/-- A dropped tip, a revoked row or a reactivated one is logged as a reorg. -/
def logReorg (metadata : ServiceMetadata) (tipHeight rewindHeight : ℕ)
    (reorg : ReceiptRangeReconciliation) (queued : List ℕ) : SyncM Unit :=
  if metadata.lastSeenTipHeight > tipHeight ∨ reorg.revokedReceiptCount > 0 ∨
      reorg.reactivatedReceiptCount > 0 then
    transaction env .database fun now db =>
      (recordReorgEvent metadata.lastSeenTipHeight tipHeight rewindHeight
        reorg.affectedAddressIds.length (reorgNotes rewindHeight tipHeight reorg queued) now
        db).map fun db => ((), db)
  else return ()

def catchUpReason (tipHeight : ℕ) (first : ScanBatch) (finalHeight : ℕ) : String :=
  s!"chain tip is at {tipHeight}; starting pipelined catch-up with compact blocks " ++
    s!"{first.startHeight}..={first.endHeight} and continuing through {finalHeight}"

def markCatchingUp (metadata : ServiceMetadata) (tipHeight : ℕ) (plan : ScanRangePlan) :
    SyncM Unit :=
  match plan.shouldMarkCatchingUp, plan.firstBatch, plan.finalHeight with
  | true, some first, some finalHeight => do
    let _ ← transaction env .database fun now => recordSyncStatus .catchingUp
      (catchUpReason tipHeight first finalHeight) tipHeight metadata.lastScannedHeight now
    return ()
  | _, _, _ => return ()

/-- The forward scan, or the height that is scanned already. -/
def scanForward (metadata : ServiceMetadata) (tipHeight : ℕ) (plan : ScanRangePlan) :
    SyncM (List ℕ × ℕ) :=
  match plan.firstBatch, plan.finalHeight with
  | some first, some finalHeight =>
    scanBatchesWithPipeline env config tipHeight finalHeight plan.batchSize (finalHeight + 1) []
      first
  | _, _ => return ([], min tipHeight ((u32TryFrom (max metadata.lastScannedHeight 0)).getD 0))

def advanceMaturity (tipHeight : ℕ) : SyncM (List ℕ × List ℕ) := do
  let matured ← transaction env .database fun now =>
    advanceReceiptMaturity tipHeight config.webhookReportConfirmations
      config.finalityConfirmations now
  let queued ← queueWebhookDeliveries env .database matured
  return (matured, queued)

/-- Revocation of mempool rows waits until the sampled tip is scanned. -/
def syncMempool (tipHeight newLastScannedHeight : ℕ) : SyncM (List ℕ) :=
  if config.webhookReportConfirmations = 0 then
    reconcileCurrentMempool env config tipHeight (newLastScannedHeight ≥ tipHeight)
  else return []

def caughtUpReason (tipHeight newLastScannedHeight : ℕ) (affected maturedQueued : List ℕ) :
    String :=
  if affected.isEmpty then
    s!"wallet scan is caught up through block {newLastScannedHeight} at tip {tipHeight}; " ++
      "no new issued-address receipts were observed"
  else
    s!"wallet scan is caught up through block {newLastScannedHeight} at tip {tipHeight}; " ++
      s!"updated {affected.length} issued addresses from observed or matured receipts " ++
      s!"and queued {maturedQueued.length} maturity-driven webhook deliveries"

/-- The rest of the iteration, once the scan has reached `newLastScannedHeight`. -/
def finishSync (tipHeight newLastScannedHeight : ℕ) (observed : List ℕ) : SyncM ℕ := do
  let (matured, maturedQueued) ← advanceMaturity env config tipHeight
  let inMempool ← syncMempool env config tipHeight newLastScannedHeight
  let affected := idSet (observed ++ matured ++ inMempool)
  let _ ← transaction env .database fun now => recordSyncStatus
    (if newLastScannedHeight ≥ tipHeight then .synced else .catchingUp)
    (caughtUpReason tipHeight newLastScannedHeight affected maturedQueued) tipHeight
    newLastScannedHeight now
  return tipHeight

/-- The iteration from the sampled tip on. -/
def syncAt (birthdayHeight : ℕ) (metadata : ServiceMetadata) (tipHeight : ℕ) : SyncM ℕ := do
  let decision := buildSyncScanDecision birthdayHeight metadata.lastScannedHeight tipHeight
    config.catchUpThresholdBlocks config.catchUpBatchSize config.finalityConfirmations
  let cleanup ← revokeAboveTip env config metadata.lastScannedHeight tipHeight
  let overlap ← reconcileOverlap env config tipHeight decision.overlapBatch
  let reorg := cleanup.merge overlap
  let queued ← queueWebhookDeliveries env .database reorg.affectedAddressIds
  logReorg env metadata tipHeight
    (reorgRewindHeight metadata.lastScannedHeight tipHeight decision.overlapBatch) reorg queued
  markCatchingUp env metadata tipHeight decision.plan
  let (scanned, newLastScannedHeight) ← scanForward env config metadata tipHeight decision.plan
  finishSync env config tipHeight newLastScannedHeight (overlap.affectedAddressIds ++ scanned)

/-- The metadata row and the setting are written in two transactions. -/
def readMetadata : SyncM ServiceMetadata := do
  let metadata ← transaction env .database fun _ => ensureServiceMetadataRow config
  transaction env .database fun _ db =>
    .ok ((), applyRequiredConfirmations db config.requiredConfirmations)
  return metadata

/-- The metadata of an iteration and the tip it works with. -/
def sampleTip : SyncM (ServiceMetadata × ℕ) := do
  let metadata ← readMetadata env config
  let tipHeight ← await env .tip env.latestBlockHeight (.sampledTip ·.val)
  return (metadata, tipHeight.val)

/-- `sync_once`: an iteration returns the tip whose successor is waited for. -/
def syncOnce (birthdayHeight : ℕ) : SyncM ℕ := do
  let (metadata, tipHeight) ← sampleTip env config
  syncAt env config birthdayHeight metadata tipHeight

/-! ### Runs -/

/-- What the service does when it starts again after it was killed. -/
def recoverStartupWebhookState (now : Timestamp) (db : Db) : Db :=
  (queueAllDirtyWebhookDeliveries now (recoverInterruptedWebhookDeliveries now db).2).2

/-- One iteration, with a record of its own. -/
def World.iterate (birthdayHeight : ℕ) (w : World) : Except Halt ℕ × World :=
  syncOnce env config birthdayHeight { w with answers := [], scans := [] }

/-- Where the next iteration starts: a process that was killed is started again. -/
def World.next (birthdayHeight : ℕ) (w : World) : World :=
  match w.iterate env config birthdayHeight with
  | (.error .killed, w') =>
    { w' with db := recoverStartupWebhookState (env.clock w'.time) w'.db }
  | (_, w') => w'

/-- The world before the iteration `k`. -/
def World.at (birthdayHeight : ℕ) (w : World) : ℕ → World
  | 0 => w
  | k + 1 => (w.at birthdayHeight k).next env config birthdayHeight

/-- The world before the iteration `k` of a service that starts on an empty ledger. -/
def serviceAt (birthdayHeight : ℕ) (createdAt : Timestamp) (requests : List NewAddress) (k : ℕ) :
    World :=
  World.at env config birthdayHeight ⟨startDb config createdAt requests, 0, [], [], []⟩ k

end ZcashPayment

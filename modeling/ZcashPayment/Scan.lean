import ZcashPayment.Service
import ZcashPayment.Ledger

/-!
What a scan finds, and which heights it covers.

Trial decryption is not modelled: a transaction comes with the outputs the viewing key opens,
and a block with its transactions. From there on the scan is the code's: outputs become
receipts in a fixed order, receipts get the address their receiver was issued with, and the
heights to read are planned from the last scanned height and the tip. Heights are `u32` in
the code; they are natural numbers here and the saturating operations are spelt out.
-/

namespace ZcashPayment

/-! ### Receipts of a scan -/

/-- An output of a transaction that the viewing key opens. -/
structure WalletOutput where
  pool : Pool
  outputIndex : ℕ
  valueZat : ℕ
  receiverFingerprint : Bytes
  deriving DecidableEq, Repr

structure WalletTx where
  txidHex : String
  outputs : List WalletOutput
  deriving DecidableEq, Repr

structure CompactBlock where
  height : ℕ
  transactions : List WalletTx
  deriving DecidableEq, Repr

structure IncomingReceipt where
  txidHex : String
  minedHeight : ℕ
  isMempool : Bool
  pool : Pool
  outputIndex : ℕ
  valueZat : ℕ
  receiverFingerprint : Bytes
  deriving DecidableEq, Repr

/-- `{txid}:{pool}:{output_index}` -/
def IncomingReceipt.receiptUid (r : IncomingReceipt) : ReceiptUid :=
  ⟨r.txidHex, r.pool, r.outputIndex⟩

def txReceipts (minedHeight : ℕ) (isMempool : Bool) (tx : WalletTx) : List IncomingReceipt :=
  tx.outputs.map fun o =>
    { txidHex := tx.txidHex
      minedHeight
      isMempool
      pool := o.pool
      outputIndex := o.outputIndex
      valueZat := o.valueZat
      receiverFingerprint := o.receiverFingerprint }

/-- The receipts of a block that is opened already: the spam filter and the trial decryption
come before it (`BlockScan.scanOneCompactBlock`). -/
def scanOneCompactBlock (block : CompactBlock) : List IncomingReceipt :=
  block.transactions.flatMap (txReceipts block.height false)

/-- The pool's name, by which receipts are sorted. -/
def Pool.name : Pool → String
  | .orchard => "orchard"
  | .ironwood => "ironwood"
  | .sapling => "sapling"

/-- By height, then txid, then pool, then output index. -/
def receiptLe (left right : IncomingReceipt) : Prop :=
  left.minedHeight < right.minedHeight ∨ left.minedHeight = right.minedHeight ∧
    (left.txidHex < right.txidHex ∨ left.txidHex = right.txidHex ∧
      (left.pool.name < right.pool.name ∨ left.pool.name = right.pool.name ∧
        left.outputIndex ≤ right.outputIndex))

instance : DecidableRel receiptLe := fun left right => by
  unfold receiptLe
  infer_instance

def sortReceipts (receipts : List IncomingReceipt) : List IncomingReceipt :=
  receipts.insertionSort receiptLe

def scanCompactBlocks (blocks : List CompactBlock) : List IncomingReceipt :=
  sortReceipts (blocks.flatMap scanOneCompactBlock)

def scanMempoolTransactions (transactions : List WalletTx) : List IncomingReceipt :=
  sortReceipts (transactions.flatMap (txReceipts 0 true))

@[simp] lemma mem_sortReceipts {r : IncomingReceipt} {receipts : List IncomingReceipt} :
    r ∈ sortReceipts receipts ↔ r ∈ receipts :=
  (List.perm_insertionSort receiptLe receipts).mem_iff

lemma mem_scanCompactBlocks {r : IncomingReceipt} {blocks : List CompactBlock} :
    r ∈ scanCompactBlocks blocks ↔ ∃ b ∈ blocks, r ∈ scanOneCompactBlock b := by
  simp [scanCompactBlocks]

lemma mem_txReceipts {r : IncomingReceipt} {h : ℕ} {isMempool : Bool} {tx : WalletTx}
    (hr : r ∈ txReceipts h isMempool tx) :
    r.txidHex = tx.txidHex ∧ r.minedHeight = h ∧ r.isMempool = isMempool := by
  obtain ⟨o, -, rfl⟩ := List.mem_map.mp hr
  exact ⟨rfl, rfl, rfl⟩

/-- A receipt of a block carries the height of the block. -/
lemma height_of_mem_scanOne {r : IncomingReceipt} {b : CompactBlock}
    (hr : r ∈ scanOneCompactBlock b) : r.minedHeight = b.height ∧ r.isMempool = false := by
  obtain ⟨tx, -, hr⟩ := List.mem_flatMap.mp hr
  exact (mem_txReceipts hr).2

lemma mem_scanMempool {r : IncomingReceipt} {txs : List WalletTx}
    (hr : r ∈ scanMempoolTransactions txs) :
    ∃ tx ∈ txs, r ∈ txReceipts 0 true tx := by
  simpa [scanMempoolTransactions] using hr

/-! ### attribute_scanned_receipts -/

def u32Max : ℕ := 2 ^ 32 - 1

/-- The loop body for a receipt whose address was found. -/
def attributeOne (addressId : ℕ) (receipt : IncomingReceipt) (tipHeight : ℕ)
    (webhookReportConfirmations : ℕ) (observedAt : Timestamp) : AttributedScannedReceipt :=
  -- The sum wraps: the service is built without overflow checks.
  let confirmationDepth :=
    if tipHeight ≥ receipt.minedHeight then
      (tipHeight - receipt.minedHeight + 1) % (u32Max + 1)
    else 0
  { addressId
    txidHex := receipt.txidHex
    pool := receipt.pool
    receiptUid := receipt.receiptUid
    valueZat := receipt.valueZat
    minedHeight := receipt.minedHeight
    confirmationDepth := if receipt.isMempool then 0 else confirmationDepth
    eligibleForWebhook :=
      if receipt.isMempool then decide (webhookReportConfirmations = 0)
      else decide (confirmationDepth ≥ webhookReportConfirmations)
    receiptKind := if receipt.isMempool then .mempool else .mined
    firstObservedAt := observedAt
    lastObservedAt := observedAt }

def attributeScannedReceipts (find : Pool → Bytes → Option ℕ) (tipHeight : ℕ)
    (webhookReportConfirmations : ℕ) (observedAt : Timestamp) :
    List IncomingReceipt → Except AppError (List AttributedScannedReceipt)
  | [] => .ok []
  | receipt :: receipts =>
    match find receipt.pool receipt.receiverFingerprint with
    | none => attributeScannedReceipts find tipHeight webhookReportConfirmations observedAt receipts
    | some addressId =>
      if receipt.valueZat > i64Max then .error (.wallet "receipt value overflowed i64")
      else do
        let rest ← attributeScannedReceipts find tipHeight webhookReportConfirmations observedAt
          receipts
        return attributeOne addressId receipt tipHeight webhookReportConfirmations observedAt ::
          rest

/-- **What attribution returns**: one row for every receipt whose receiver was found. -/
lemma mem_attributeScannedReceipts {find : Pool → Bytes → Option ℕ} {tip threshold : ℕ}
    {now : Timestamp} {receipts : List IncomingReceipt} {out : List AttributedScannedReceipt}
    (h : attributeScannedReceipts find tip threshold now receipts = .ok out)
    {e : AttributedScannedReceipt} :
    e ∈ out ↔ ∃ r ∈ receipts, ∃ a, find r.pool r.receiverFingerprint = some a ∧
      e = attributeOne a r tip threshold now := by
  induction receipts generalizing out with
  | nil =>
    cases h
    simp
  | cons r receipts ih =>
    unfold attributeScannedReceipts at h
    rcases hf : find r.pool r.receiverFingerprint with _ | a
    · rw [hf] at h
      rw [ih h]
      simp [hf]
    · rw [hf] at h
      simp only at h
      split_ifs at h
      rcases hrest : attributeScannedReceipts find tip threshold now receipts with _ | rest
      · rw [hrest] at h
        cases h
      · rw [hrest] at h
        cases h
        rw [List.mem_cons, ih hrest]
        simp [hf]

/-! ### Which heights to read -/

/-- `saturating_add` on `u32`. -/
def saturatingAdd (a b : ℕ) : ℕ := min (a + b) u32Max

structure ScanBatch where
  startHeight : ℕ
  endHeight : ℕ
  deriving DecidableEq, Repr

structure ScanRangePlan where
  firstBatch : Option ScanBatch
  finalHeight : Option ℕ
  batchSize : ℕ
  shouldMarkCatchingUp : Bool
  isCaughtUp : Bool
  deriving DecidableEq, Repr

structure SyncScanDecision where
  overlapBatch : Option ScanBatch
  forwardStartHeight : ℕ
  plan : ScanRangePlan
  deriving DecidableEq, Repr

def nextScanBatch (nextHeight finalHeight catchUpBatchSize : ℕ) : Option ScanBatch :=
  if nextHeight > finalHeight then none
  else some
    { startHeight := nextHeight
      endHeight := min (saturatingAdd nextHeight (catchUpBatchSize - 1)) finalHeight }

def planScanRange (nextHeight tipHeight catchUpThresholdBlocks catchUpBatchSize : ℕ) :
    ScanRangePlan :=
  if nextHeight > tipHeight then
    { firstBatch := none
      finalHeight := none
      batchSize := catchUpBatchSize
      shouldMarkCatchingUp := false
      isCaughtUp := true }
  else
    -- The sum is a `u32`: the whole range from 0 wraps around to no lag.
    let lagBlocks := (tipHeight - nextHeight + 1) % 2 ^ 32
    { firstBatch := nextScanBatch nextHeight tipHeight catchUpBatchSize
      finalHeight := some tipHeight
      batchSize := catchUpBatchSize
      shouldMarkCatchingUp := lagBlocks ≥ catchUpThresholdBlocks
      isCaughtUp := false }

/-- `u32::try_from` of an `i64`. -/
def u32TryFrom (h : ℤ) : Option ℕ := if 0 ≤ h ∧ h ≤ u32Max then some h.toNat else none

def forwardScanStartHeight (birthdayHeight : ℕ) (lastScannedHeight : ℤ) (tipHeight : ℕ) : ℕ :=
  if lastScannedHeight ≤ 0 then birthdayHeight
  else
    max ((u32TryFrom lastScannedHeight).elim (saturatingAdd tipHeight 1) fun height =>
      saturatingAdd (min height tipHeight) 1) birthdayHeight

def reorgOverlapBatch (birthdayHeight : ℕ) (lastScannedHeight : ℤ)
    (tipHeight finalityConfirmations : ℕ) : Option ScanBatch :=
  if lastScannedHeight ≤ 0 then none
  else (u32TryFrom lastScannedHeight).bind fun height =>
    let overlapEnd := min height tipHeight
    if overlapEnd < birthdayHeight then none
    else some
      { startHeight := max (overlapEnd - (finalityConfirmations - 1)) birthdayHeight
        endHeight := overlapEnd }

def buildSyncScanDecision (birthdayHeight : ℕ) (lastScannedHeight : ℤ)
    (tipHeight catchUpThresholdBlocks catchUpBatchSize finalityConfirmations : ℕ) :
    SyncScanDecision :=
  let forwardStartHeight := forwardScanStartHeight birthdayHeight lastScannedHeight tipHeight
  { overlapBatch :=
      reorgOverlapBatch birthdayHeight lastScannedHeight tipHeight finalityConfirmations
    forwardStartHeight
    plan := planScanRange forwardStartHeight tipHeight catchUpThresholdBlocks catchUpBatchSize }

lemma u32TryFrom_natCast {n : ℕ} (h : n ≤ u32Max) : u32TryFrom n = some n := by
  unfold u32TryFrom
  rw [if_pos ⟨by omega, by omega⟩, Int.toNat_natCast]

lemma reorgOverlapBatch_le {birthday tip finality : ℕ} {scanned : ℤ} {batch : ScanBatch}
    (h : reorgOverlapBatch birthday scanned tip finality = some batch) :
    batch.startHeight ≤ batch.endHeight := by
  unfold reorgOverlapBatch at h
  split_ifs at h
  obtain ⟨height, -, h⟩ := Option.bind_eq_some_iff.mp h
  simp only at h
  split_ifs at h
  cases h
  simp only
  omega

/-- The range of the overlap: the last heights that were scanned, up to the tip. -/
lemma reorgOverlapBatch_eq {birthday scanned tip finality : ℕ} (hs : scanned ≤ u32Max) :
    reorgOverlapBatch birthday scanned tip finality =
      if scanned = 0 ∨ min scanned tip < birthday then none
      else some ⟨max (min scanned tip - (finality - 1)) birthday, min scanned tip⟩ := by
  unfold reorgOverlapBatch
  rw [u32TryFrom_natCast hs]
  by_cases h0 : scanned = 0
  · simp [h0]
  · have hcond : (scanned = 0 ∨ min scanned tip < birthday) ↔ min scanned tip < birthday := by
      simp only [h0, false_or]
    rw [if_neg (by omega)]
    simp only [hcond]
    rfl

/-- Where the forward scan starts: right after what the overlap has read. -/
lemma forwardScanStartHeight_eq {birthday scanned tip : ℕ} (hs : scanned ≤ u32Max) :
    forwardScanStartHeight birthday scanned tip =
      if scanned = 0 then birthday
      else max (min (min scanned tip + 1) u32Max) birthday := by
  unfold forwardScanStartHeight saturatingAdd
  rw [u32TryFrom_natCast hs]
  by_cases h0 : scanned = 0
  · simp [h0]
  · rw [if_neg (by omega), if_neg h0]
    rfl

lemma nextScanBatch_eq {next final size : ℕ} {batch : ScanBatch}
    (h : nextScanBatch next final size = some batch) (hfinal : final ≤ u32Max) :
    batch.startHeight = next ∧ next ≤ batch.endHeight ∧ batch.endHeight ≤ final := by
  unfold nextScanBatch saturatingAdd at h
  split_ifs at h with hn
  cases h
  refine ⟨rfl, by simp only; omega, by simp only; omega⟩

end ZcashPayment

import ZcashPayment.Totals

/-!
The rest of what the service stores: its metadata row, the log of sync states and reorgs,
and the addresses it has issued. None of it writes a receipt row.
-/

namespace ZcashPayment

/-- The settings the scanner and the ledger read; the numbers are `u32`. -/
structure Config where
  catchUpThresholdBlocks : ℕ
  catchUpBatchSize : ℕ
  webhookReportConfirmations : ℕ
  finalityConfirmations : ℕ
  requiredConfirmations : Option ℕ
  deriving DecidableEq, Repr

def settingsMismatch : AppError := .startupIntegrity
  "stored service metadata confirmation settings do not match the configured constants"

def metadataMissing : AppError := .invalidConfig "service metadata is missing"

def ensureServiceMetadataRow (config : Config) (db : Db) :
    Except AppError (ServiceMetadata × Db) :=
  match db.metadata with
  | some metadata =>
    if metadata.webhookReportConfirmations ≠ config.webhookReportConfirmations ∨
        metadata.finalityConfirmations ≠ config.finalityConfirmations then
      .error settingsMismatch
    else .ok (metadata, db)
  | none =>
    let metadata : ServiceMetadata :=
      { webhookReportConfirmations := config.webhookReportConfirmations
        finalityConfirmations := config.finalityConfirmations }
    .ok (metadata, { db with metadata := some metadata })

def ensureServiceMetadata (config : Config) (db : Db) :
    Except AppError (ServiceMetadata × Db) := do
  let (metadata, db) ← ensureServiceMetadataRow config db
  return (metadata, applyRequiredConfirmations db config.requiredConfirmations)

def recordSyncStatus (newState : SyncState) (reason : String)
    (lastSeenTipHeight lastScannedHeight : ℤ) (now : Timestamp) (db : Db) :
    Except AppError (ServiceMetadata × Db) :=
  match db.metadata with
  | none => .error metadataMissing
  | some current =>
    let stateChanged := current.currentSyncState ≠ newState
    let nextScanEpoch :=
      if stateChanged then current.currentScanEpoch + 1 else current.currentScanEpoch
    let updated : ServiceMetadata :=
      { current with
        lastSeenTipHeight
        lastScannedHeight
        lastStableTipHeight := lastScannedHeight
        currentSyncState := newState
        currentScanEpoch := nextScanEpoch
        catchUpEnteredAt :=
          if stateChanged ∧ newState = .catchingUp then some now else current.catchUpEnteredAt
        catchUpExitedAt :=
          if stateChanged ∧ current.currentSyncState = .catchingUp ∧ newState ≠ .catchingUp then
            some now
          else current.catchUpExitedAt }
    .ok (updated, { db with
      metadata := some updated
      syncStateTransitions :=
        if stateChanged then
          db.syncStateTransitions ++ [{
            fromState := current.currentSyncState
            toState := newState
            reason
            tipHeight := lastSeenTipHeight
            scannedHeight := lastScannedHeight
            scanEpoch := nextScanEpoch
            detectedAt := now }]
        else db.syncStateTransitions })

def recordReorgEvent (previousTipHeight newTipHeight rewindHeight : ℤ)
    (affectedAddressCount : ℕ) (notes : String) (now : Timestamp) (db : Db) :
    Except AppError Db :=
  match db.metadata with
  | none => .error (.database "Query returned no rows")
  | some current =>
    .ok { db with
      reorgEvents := db.reorgEvents ++ [{
        scanEpoch := current.currentScanEpoch
        detectedAt := now
        previousTipHeight
        newTipHeight
        rewindHeight
        affectedAddressCount
        notes }] }

/-! ### What the metadata row is written to -/

section metadata

variable {config : Config} {db db' : Db} {metadata : ServiceMetadata} {newState : SyncState}
  {reason notes : String} {tip scanned rewind : ℤ} {count : ℕ} {now : Timestamp}

lemma ensureServiceMetadataRow_ok
    (h : ensureServiceMetadataRow config db = .ok (metadata, db')) :
    db' = { db with metadata := some metadata } ∧
      (db.metadata = some metadata ∨ db.metadata = none ∧ metadata.lastScannedHeight = 0 ∧
        metadata.lastSeenTipHeight = 0 ∧ metadata.requiredConfirmations = none) := by
  unfold ensureServiceMetadataRow at h
  rcases hm : db.metadata with _ | current
  · rw [hm] at h
    cases h
    exact ⟨rfl, Or.inr ⟨rfl, rfl, rfl, rfl⟩⟩
  · rw [hm] at h
    simp only at h
    split_ifs at h
    cases h
    exact ⟨by rw [← hm], Or.inl rfl⟩

/-- **What a sync status writes**: the metadata row and the log of transitions. -/
lemma recordSyncStatus_ok
    (h : recordSyncStatus newState reason tip scanned now db = .ok (metadata, db')) :
    ∃ current transitions, db.metadata = some current ∧
      db' = { db with metadata := some metadata, syncStateTransitions := transitions } ∧
      metadata.lastScannedHeight = scanned ∧ metadata.lastSeenTipHeight = tip ∧
      metadata.requiredConfirmations = current.requiredConfirmations := by
  unfold recordSyncStatus at h
  rcases hm : db.metadata with _ | current
  · rw [hm] at h
    cases h
  · rw [hm] at h
    cases h
    exact ⟨current, _, rfl, rfl, rfl, rfl, rfl⟩

lemma recordReorgEvent_ok
    (h : recordReorgEvent tip scanned rewind count notes now db = .ok db') :
    ∃ events, db' = { db with reorgEvents := events } := by
  unfold recordReorgEvent at h
  rcases hm : db.metadata with _ | current
  · rw [hm] at h
    cases h
  · rw [hm] at h
    cases h
    exact ⟨_, rfl⟩

end metadata

/-! ### Issued addresses -/

/-- The inserts of `allocate_fresh_address`, for the address its caller prepared. -/
def allocateFreshAddress (new : NewAddress) (createdAt : Timestamp) (db : Db) :
    Except AppError (ℕ × Db) :=
  let addressId := nextRowId (db.issuedAddresses.rows.map IssuedAddress.addressId)
  if db.issuedAddresses.rows.any fun row => row.unifiedAddress = new.unifiedAddress then
    .error (.database "UNIQUE constraint failed: issued_addresses.unified_address")
  else if h : addressId ∈ db.addressTotals.rows.map AddressTotals.addressId then
    .error (.database "UNIQUE constraint failed: address_totals.address_id")
  else if ¬(new.receivers.map Prod.fst).Nodup then
    .error (.database ("UNIQUE constraint failed: " ++
      "address_receivers.address_id, address_receivers.pool"))
  else if new.receivers.any fun r =>
      db.addressReceivers.any fun s => s.pool = r.1 && s.receiverFingerprint = r.2 then
    .error (.database ("UNIQUE constraint failed: " ++
      "address_receivers.pool, address_receivers.receiver_fingerprint"))
  else
    .ok (addressId, { db with
      issuedAddresses := db.issuedAddresses.insert
        { addressId, unifiedAddress := new.unifiedAddress } (nextRowId_notMem _)
      addressTotals := db.addressTotals.insert
        { addressId, lastChangedAt := createdAt } h
      addressReceivers := db.addressReceivers ++
        new.receivers.map fun r => { addressId, pool := r.1, receiverFingerprint := r.2 } })

def findAddressIdByReceiverFingerprint (db : Db) (pool : Pool) (receiverFingerprint : Bytes) :
    Option ℕ :=
  (db.addressReceivers.find? fun r =>
    r.pool = pool && r.receiverFingerprint = receiverFingerprint).map (·.addressId)

/-- A request that fails leaves nothing behind. -/
def issueOne (createdAt : Timestamp) (db : Db) (new : NewAddress) : Db :=
  match allocateFreshAddress new createdAt db with
  | .ok (_, db') => db'
  | .error _ => db

def issueAll (createdAt : Timestamp) (requests : List NewAddress) (db : Db) : Db :=
  requests.foldl (issueOne createdAt) db

/-! ### What issuing keeps -/

/-- The addresses with a row of totals are the issued ones. -/
def Db.TotalsKept (db : Db) : Prop :=
  ∀ a, (db.addressTotals.find? a).isSome = db.issued a

variable {new : NewAddress} {createdAt : Timestamp} {db db' : Db} {a : ℕ}

/-- **What issuing writes**: a new address with its receivers, and totals of zero. -/
lemma allocateFreshAddress_ok (h : allocateFreshAddress new createdAt db = .ok (a, db')) :
    ∃ (hi : a ∉ db.issuedAddresses.rows.map IssuedAddress.addressId)
      (ht : a ∉ db.addressTotals.rows.map AddressTotals.addressId),
      db' = { db with
        issuedAddresses := db.issuedAddresses.insert
          { addressId := a, unifiedAddress := new.unifiedAddress } hi
        addressTotals := db.addressTotals.insert
          { addressId := a, lastChangedAt := createdAt } ht
        addressReceivers := db.addressReceivers ++
          new.receivers.map fun r =>
            { addressId := a, pool := r.1, receiverFingerprint := r.2 } } := by
  simp only [allocateFreshAddress] at h
  split_ifs at h with _ ht
  cases h
  exact ⟨nextRowId_notMem _, ht, rfl⟩

lemma allocateFreshAddress_kept (hk : db.TotalsKept)
    (h : allocateFreshAddress new createdAt db = .ok (a, db')) : db'.TotalsKept := by
  obtain ⟨hi, ht, rfl⟩ := allocateFreshAddress_ok h
  intro b
  simp only [Db.issued, Table.find?_insert]
  split_ifs with hab
  · rfl
  · exact hk b

/-- What holds of a database and is kept by issuing one address holds after all requests. -/
lemma issueAll_induction (I : Db → Prop) (h0 : I db)
    (hstep : ∀ new db a db', I db → allocateFreshAddress new createdAt db = .ok (a, db') → I db')
    (requests : List NewAddress) : I (issueAll createdAt requests db) := by
  induction requests generalizing db with
  | nil => exact h0
  | cons new requests ih =>
    refine ih ?_
    unfold issueOne
    rcases hr : allocateFreshAddress new createdAt db with _ | ⟨a, db'⟩
    · exact h0
    · exact hstep new db a db' h0 hr

end ZcashPayment

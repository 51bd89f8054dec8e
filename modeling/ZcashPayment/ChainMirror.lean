import ZcashPayment.LedgerRows
import ZcashPayment.Scan

/-!
The chain, and when the ledger mirrors it at a height.

A chain view lists the transactions of every height. The ledger mirrors it at a height when
its active mined rows there are the receipts of that height that pay an issued address. Each
ledger operation is described by what it does to mirroring, height by height: reconciling a
range establishes it in the range and keeps it elsewhere, the maturity pass and a snapshot
that does not list the chain's transactions keep it.
-/

namespace ZcashPayment

/-- The transactions of every height; a uid occurs once. -/
structure ChainView where
  transactions : ℕ → List WalletTx
  unique : ∀ {h h' : ℕ} {r r' : IncomingReceipt},
    r ∈ scanOneCompactBlock ⟨h, transactions h⟩ → r' ∈ scanOneCompactBlock ⟨h', transactions h'⟩ →
      r.receiptUid = r'.receiptUid → r = r'

namespace ChainView

def block (C : ChainView) (h : ℕ) : CompactBlock := ⟨h, C.transactions h⟩

/-- The receipt is in the chain, at its height. -/
def Has (C : ChainView) (r : IncomingReceipt) : Prop :=
  r ∈ scanOneCompactBlock (C.block r.minedHeight)

/-- The blocks asked for, and no others. -/
def Answers (C : ChainView) (batch : ScanBatch) (blocks : List CompactBlock) : Prop :=
  ∀ b, b ∈ blocks ↔ ∃ h, batch.startHeight ≤ h ∧ h ≤ batch.endHeight ∧ b = C.block h

variable {C : ChainView} {r r' : IncomingReceipt} {h : ℕ}

lemma has_of_mem (hr : r ∈ scanOneCompactBlock (C.block h)) : C.Has r ∧ r.minedHeight = h := by
  have hh : r.minedHeight = h := (height_of_mem_scanOne hr).1
  exact ⟨by rwa [Has, hh], hh⟩

lemma Has.eq (hr : C.Has r) (hr' : C.Has r') (hu : r.receiptUid = r'.receiptUid) : r = r' :=
  C.unique hr hr' hu

lemma Has.not_mempool (hr : C.Has r) : r.isMempool = false := (height_of_mem_scanOne hr).2

/-- What a scan of the blocks asked for returns. -/
lemma mem_scan {batch : ScanBatch} {blocks : List CompactBlock} (hb : C.Answers batch blocks) :
    r ∈ scanCompactBlocks blocks ↔
      C.Has r ∧ batch.startHeight ≤ r.minedHeight ∧ r.minedHeight ≤ batch.endHeight := by
  rw [mem_scanCompactBlocks]
  constructor
  · rintro ⟨b, hmem, hr⟩
    obtain ⟨h, h1, h2, rfl⟩ := (hb b).mp hmem
    obtain ⟨hhas, rfl⟩ := has_of_mem hr
    exact ⟨hhas, h1, h2⟩
  · rintro ⟨hhas, h1, h2⟩
    exact ⟨C.block r.minedHeight, (hb _).mpr ⟨_, h1, h2, rfl⟩, hhas⟩

end ChainView

/-- An active mined row that records a receipt of an address. -/
structure Records (row : ReceiptRow) (r : IncomingReceipt) (a : ℕ) : Prop where
  active : isActiveMined row = true
  uid : row.receiptUid = r.receiptUid
  height : row.minedHeight = r.minedHeight
  value : row.valueZat = r.valueZat
  address : row.addressId = a

/-- At the height `h` the ledger holds what the chain pays to issued addresses. -/
structure Mirrors (payee : Pool → Bytes → Option ℕ) (C : ChainView) (db : Db) (h : ℕ) : Prop where
  sound : ∀ row ∈ db.receipts.rows, isActiveMined row = true → row.minedHeight = h →
    ∃ r a, C.Has r ∧ payee r.pool r.receiverFingerprint = some a ∧ Records row r a
  complete : ∀ r a, C.Has r → r.minedHeight = h → payee r.pool r.receiverFingerprint = some a →
    ∃ row ∈ db.receipts.rows, Records row r a

variable {payee find : Pool → Bytes → Option ℕ} {C : ChainView} {db db' : Db}
  {tip startHeight endHeight : ℤ} {finality threshold tipHeight h : ℕ}
  {now observedAt : Timestamp} {attributed : List AttributedScannedReceipt} {batch : ScanBatch}
  {row : ReceiptRow} {r : IncomingReceipt} {a : ℕ}

/-! ### Reconciling a range -/

/-- The attributed receipts of a range are what the chain pays to issued addresses there. -/
def AttributedIn (payee : Pool → Bytes → Option ℕ) (C : ChainView) (batch : ScanBatch)
    (tipHeight threshold : ℕ) (observedAt : Timestamp)
    (attributed : List AttributedScannedReceipt) : Prop :=
  ∀ e, e ∈ attributed ↔ ∃ r a, C.Has r ∧ batch.startHeight ≤ r.minedHeight ∧
    r.minedHeight ≤ batch.endHeight ∧ payee r.pool r.receiverFingerprint = some a ∧
      e = attributeOne a r tipHeight threshold observedAt

lemma attributedIn_of_scan {blocks : List CompactBlock} (hb : C.Answers batch blocks)
    (hf : ∀ r ∈ scanCompactBlocks blocks, find r.pool r.receiverFingerprint =
      payee r.pool r.receiverFingerprint)
    (h : attributeScannedReceipts find tipHeight threshold observedAt (scanCompactBlocks blocks) =
      .ok attributed) :
    AttributedIn payee C batch tipHeight threshold observedAt attributed := by
  intro e
  rw [mem_attributeScannedReceipts h]
  constructor
  · rintro ⟨r, hr, a, ha, rfl⟩
    obtain ⟨hhas, h1, h2⟩ := (C.mem_scan hb).mp hr
    exact ⟨r, a, hhas, h1, h2, hf r hr ▸ ha, rfl⟩
  · rintro ⟨r, a, hhas, h1, h2, ha, rfl⟩
    have hr := (C.mem_scan hb).mpr ⟨hhas, h1, h2⟩
    exact ⟨r, hr, a, (hf r hr).trans ha, rfl⟩

lemma AttributedIn.mem_scanned
    (hatt : AttributedIn payee C batch tipHeight threshold observedAt attributed)
    {e : AttributedScannedReceipt} : e ∈ scannedByUid attributed ↔ e ∈ attributed := by
  refine mem_scannedByUid_iff fun e he e' he' hu => ?_
  obtain ⟨r, a, hr, -, -, ha, rfl⟩ := (hatt e).mp he
  obtain ⟨r', a', hr', -, -, ha', rfl⟩ := (hatt e').mp he'
  obtain rfl := hr.eq hr' hu
  rw [ha] at ha'
  rw [Option.some.inj ha']

/-- What is written of a receipt of the chain records it. -/
lemma written_records (hr : C.Has r) (prior : Option ReceiptRow)
    (hp : ∀ old, prior = some old → old.receiptUid = r.receiptUid) :
    Records (prior.elim (insertedRow (attributeOne a r tipHeight threshold observedAt))
      (mergedRow (attributeOne a r tipHeight threshold observedAt))) r a := by
  have hk : (attributeOne a r tipHeight threshold observedAt).receiptKind = .mined := by
    simp [attributeOne, hr.not_mempool]
  refine ⟨activeMined_written hk prior, ?_, ?_, ?_, ?_⟩
  · rcases prior with _ | old
    · rfl
    · exact hp old rfl
  all_goals cases prior <;> rfl

section reconcile

variable (hatt : AttributedIn payee C batch tipHeight threshold observedAt attributed)
include hatt

/-- Every receipt of the range is recorded afterwards. -/
lemma reconcile_records (now : Timestamp) (db : Db) (hr : C.Has r)
    (h1 : batch.startHeight ≤ r.minedHeight)
    (h2 : r.minedHeight ≤ batch.endHeight) (ha : payee r.pool r.receiverFingerprint = some a) :
    ∃ row, (reconcilePending attributed batch.startHeight batch.endHeight now db).receipts.find?
      r.receiptUid = some row ∧ Records row r a := by
  have he := (hatt _).mpr ⟨r, a, hr, h1, h2, ha, rfl⟩
  exact ⟨_, find?_reconcile (hatt.mem_scanned.mpr he),
    written_records hr _ fun old hold => Table.key_of_find? hold⟩

/-- **Rows after a range**: an active mined row of the range records a receipt of the chain,
and one outside was there before. -/
lemma reconcile_rows
    (hrow : row ∈
      (reconcilePending attributed batch.startHeight batch.endHeight now db).receipts.rows)
    (hact : isActiveMined row = true) :
    (∃ r a, C.Has r ∧ batch.startHeight ≤ r.minedHeight ∧ r.minedHeight ≤ batch.endHeight ∧
        payee r.pool r.receiverFingerprint = some a ∧ Records row r a) ∨
      row ∈ db.receipts.rows ∧ inRange batch.startHeight batch.endHeight row = false := by
  rcases activeMined_reconcile hrow hact with ⟨e, he, rfl⟩ | ⟨hold, hout, -⟩
  · obtain ⟨r, a, hr, h1, h2, ha, rfl⟩ := (hatt e).mp (hatt.mem_scanned.mp he)
    exact Or.inl ⟨r, a, hr, h1, h2, ha,
      written_records hr _ fun old hold => Table.key_of_find? hold⟩
  · exact Or.inr ⟨hold, hout⟩

/-- **Reconciling a range mirrors it.** -/
lemma reconcile_mirrors
    (hdb : db'.receipts =
      (reconcilePending attributed batch.startHeight batch.endHeight now db).receipts)
    (h1 : batch.startHeight ≤ h) (h2 : h ≤ batch.endHeight) : Mirrors payee C db' h where
  sound row hrow hact hh := by
    rw [hdb] at hrow
    rcases reconcile_rows hatt hrow hact with ⟨r, a, hr, -, -, ha, hrec⟩ | ⟨-, hout⟩
    · exact ⟨r, a, hr, ha, hrec⟩
    · simp only [inRange, hh, Bool.and_eq_false_iff, decide_eq_false_iff_not] at hout
      omega
  complete r a hr hh ha := by
    obtain ⟨row, hf, hrec⟩ := reconcile_records hatt now db hr (hh ▸ h1) (hh ▸ h2) ha
    exact ⟨row, hdb ▸ Table.mem_of_find? hf, hrec⟩

/-- **Reconciling a range keeps mirroring everywhere**: a receipt of another height has
another uid. -/
lemma reconcile_keeps
    (hdb : db'.receipts =
      (reconcilePending attributed batch.startHeight batch.endHeight now db).receipts)
    (hm : Mirrors payee C db h) : Mirrors payee C db' h := by
  by_cases hin : batch.startHeight ≤ h ∧ h ≤ batch.endHeight
  · exact reconcile_mirrors hatt hdb hin.1 hin.2
  · refine ⟨fun row hrow hact hh => ?_, fun r a hr hh ha => ?_⟩
    · rw [hdb] at hrow
      rcases reconcile_rows hatt hrow hact with ⟨r, a, hr, -, -, ha, hrec⟩ | ⟨hold, -⟩
      · exact ⟨r, a, hr, ha, hrec⟩
      · exact hm.sound row hold hact hh
    · obtain ⟨row, hrow, hrec⟩ := hm.complete r a hr hh ha
      refine ⟨row, ?_, hrec⟩
      have hu : ∀ e ∈ scannedByUid attributed, e.receiptUid ≠ row.receiptUid := by
        intro e he heq
        obtain ⟨r', a', hr', h1, h2, -, rfl⟩ := (hatt e).mp (hatt.mem_scanned.mp he)
        obtain rfl := hr'.eq hr (heq.trans hrec.uid)
        exact hin ⟨hh ▸ h1, hh ▸ h2⟩
      have hout : missingFrom (scannedByUid attributed) batch.startHeight batch.endHeight row =
          false := by
        have hh' := hrec.height
        simp only [missingFrom, inRange, hh', hh, Bool.and_eq_false_iff, decide_eq_false_iff_not]
        omega
      rw [hdb]
      refine Table.mem_of_find? (k := row.receiptUid) ?_
      rw [find?_reconcile_unscanned hu, Db.row, Table.find?_of_mem hrow]
      simp [hout]

end reconcile

/-! ### The other operations -/

/-- Revoking above the tip keeps what is below it. -/
lemma revoke_mirrors (hdb : db'.receipts = (revokePending tip now db).receipts) (hh : (h : ℤ) ≤ tip)
    (hm : Mirrors payee C db h) : Mirrors payee C db' h where
  sound row hrow hact hrh :=
    hm.sound row (activeMined_revoke (hdb ▸ hrow) hact).1 hact hrh
  complete r a hr hrh ha := by
    obtain ⟨row, hrow, hrec⟩ := hm.complete r a hr hrh ha
    refine ⟨row, ?_, hrec⟩
    have hk : aboveTip tip row = false := by
      have := hrec.height
      simp only [aboveTip, Bool.and_eq_false_iff, decide_eq_false_iff_not]
      omega
    rw [hdb]
    refine Table.mem_of_find? (k := row.receiptUid) ?_
    rw [find?_revoke, Db.row, Table.find?_of_mem hrow]
    simp [hk]

/-- Where nothing is mined for an issued address, the ledger mirrors it without rows. -/
lemma revoke_mirrors_empty (hdb : db'.receipts = (revokePending tip now db).receipts)
    (he : ∀ row ∈ db.receipts.rows, isActiveMined row = true → row.minedHeight ≠ h)
    (hm : Mirrors payee C db h) : Mirrors payee C db' h where
  sound row hrow hact hrh :=
    absurd hrh (he row (activeMined_revoke (hdb ▸ hrow) hact).1 hact)
  complete r a hr hrh ha := by
    obtain ⟨row, hrow, hrec⟩ := hm.complete r a hr hrh ha
    exact absurd (hrec.height.trans (by rw [hrh])) (he row hrow hrec.active)

/-- The maturity pass keeps every record. -/
lemma maturity_mirrors (hdb : db'.receipts = (maturityPending tip threshold db).receipts)
    (hm : Mirrors payee C db h) : Mirrors payee C db' h where
  sound row hrow hact hrh := by
    obtain ⟨old, hold, rfl⟩ := matured_row (hdb ▸ hrow)
    have hact' : isActiveMined old = true := by
      split_ifs at hact with ho
      · exact ho
      · exact hact
    rw [if_pos hact'] at hrh ⊢
    obtain ⟨r, a, hr, ha, hrec⟩ := hm.sound old hold hact' hrh
    exact ⟨r, a, hr, ha, hrec.active, hrec.uid, hrec.height, hrec.value, hrec.address⟩
  complete r a hr hrh ha := by
    obtain ⟨row, hrow, hrec⟩ := hm.complete r a hr hrh ha
    have hf : db'.receipts.find? row.receiptUid =
        some (if immature tip threshold row then maturedRow tip threshold row else row) := by
      rw [hdb, find?_maturity, Db.row, Table.find?_of_mem hrow]
      rfl
    refine ⟨_, Table.mem_of_find? hf, ?_⟩
    split_ifs
    · exact ⟨hrec.active, hrec.uid, hrec.height, hrec.value, hrec.address⟩
    · exact hrec

/-- A snapshot that lists no transaction of the height keeps what is recorded there. -/
lemma mempool_mirrors {cutoff : Timestamp} {txids : List String} {revokeMissing : Bool}
    {receipts : List AttributedScannedReceipt}
    (hdb : db'.receipts =
      (mempoolPending cutoff txids receipts now threshold revokeMissing db).receipts)
    (hd : ∀ r a, C.Has r → r.minedHeight = h → payee r.pool r.receiverFingerprint = some a →
      ∀ e ∈ receipts, e.receiptUid ≠ r.receiptUid)
    (hm : Mirrors payee C db h) : Mirrors payee C db' h where
  sound row hrow hact hrh :=
    hm.sound row (activeMined_mempool (hdb ▸ hrow) hact).1 hact hrh
  complete r a hr hrh ha := by
    obtain ⟨row, hrow, hrec⟩ := hm.complete r a hr hrh ha
    refine ⟨row, ?_, hrec⟩
    rw [hdb]
    refine Table.mem_of_find? (k := row.receiptUid) (find?_mempool_mined ?_ hrow hrec.active)
    rw [hrec.uid]
    exact hd r a hr hrh ha

/-- What does not write receipts keeps mirroring. -/
lemma Mirrors.congr (hm : Mirrors payee C db h) (hdb : db'.receipts = db.receipts) :
    Mirrors payee C db' h :=
  ⟨hdb ▸ hm.sound, hdb ▸ hm.complete⟩

end ZcashPayment

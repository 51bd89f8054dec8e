import ZcashPayment.Invariants

/-!
The arrays of received sums per depth.

An array is stored with the tip it was computed at, and nothing recomputes it when the tip
moves: an address is recomputed when one of its rows changes. The maturity pass is what keeps
arrays fresh, since it changes the stored depth of every active mined row whose depth at the
tip is another. It misses an address whose array was recomputed at one tip while the stored
depths of its rows are still those of the tip that comes next.
-/

namespace ZcashPayment

open Prog

/-! ### What the queue leaves alone -/

/-- The columns of the totals the ledger computes. -/
def AddressTotals.ledger (t : AddressTotals) : ℕ × ℤ × ℤ × ℤ × ℤ × Option (List ℤ) :=
  (t.addressId, t.currentTotalZat, t.finalizedTotalZat, t.recentTotalZat, t.lastComputedTipHeight,
    t.receivedByConfirmations)

lemma setTotals_ledger (db : Db) (a : ℕ) {f : AddressTotals → AddressTotals}
    (hf : ∀ t, (f t).addressId = t.addressId) (h : ∀ t, (f t).ledger = t.ledger) :
    (db.setTotals a f hf).addressTotals.rows.map AddressTotals.ledger =
      db.addressTotals.rows.map AddressTotals.ledger := by
  simp only [Db.setTotals, Table.rows_update, List.map_map]
  refine List.map_congr_left fun t _ => ?_
  simp only [Function.comp_apply]
  split_ifs
  · exact h t
  · rfl

lemma queueOne_ledger (now : Timestamp) (acc : List ℕ × Db) (a : ℕ) :
    (queueOne now acc a).2.addressTotals.rows.map AddressTotals.ledger =
      acc.2.addressTotals.rows.map AddressTotals.ledger := by
  unfold queueOne
  simp only
  split
  · split_ifs
    · rfl
    · exact setTotals_ledger _ _ addressId_cleaned fun _ => rfl
    · exact setTotals_ledger _ _ addressId_markedQueued fun _ => rfl
    · exact (setTotals_ledger _ _ (addressId_requeued now) fun _ => rfl).trans (by simp)
  · rfl

lemma queue_ledger (now : Timestamp) (ids : List ℕ) (db : Db) :
    (queueWebhookDeliveriesForDirtyAddresses now ids db).2.addressTotals.rows.map
      AddressTotals.ledger = db.addressTotals.rows.map AddressTotals.ledger := by
  have hfold : ∀ (l : List ℕ) (acc : List ℕ × Db),
      (l.foldl (queueOne now) acc).2.addressTotals.rows.map AddressTotals.ledger =
        acc.2.addressTotals.rows.map AddressTotals.ledger := by
    intro l
    induction l with
    | nil => exact fun acc => rfl
    | cons a l ih => exact fun acc => (ih _).trans (queueOne_ledger now acc a)
  unfold queueWebhookDeliveriesForDirtyAddresses
  split_ifs
  · rfl
  · exact hfold _ _

/-! ### Arrays in step with a tip -/

/-- The array of an address with receipts, computed at the tip `T`. -/
def InStep (T : ℤ) (db : Db) (t : AddressTotals) : Prop :=
  (db.storedRequiredConfirmations = none ∨ ∃ r ∈ db.receipts.rows, r.addressId = t.addressId) →
    t.receivedByConfirmations =
      receivedByConfirmationsZat db.receipts.rows t.addressId T db.storedRequiredConfirmations

/-- An active mined row of the address whose stored depth is not the one at `T`. -/
def DepthMoves (T : ℤ) (rows : List ReceiptRow) (a : ℕ) : Prop :=
  ∃ r ∈ rows, r.addressId = a ∧ isActiveMined r = true ∧
    r.confirmationDepth ≠ depthAt T r.minedHeight

/-- What every operation keeps, with the foreign key of the receipts and a metadata row. -/
structure LedgerKept (owner : ReceiptUid → ℕ) (finality : ℕ) (db : Db) : Prop
    extends LedgerInv owner finality db where
  stored : db.metadata.isSome = true
  issued : ∀ r ∈ db.receipts.rows, db.issued r.addressId = true

/-- Every array is in step with `T`, or, where `φ` allows it, its address is one the maturity
pass at `T` will recompute. -/
structure Tracked (φ : Prop) (owner : ReceiptUid → ℕ) (finality : ℕ) (T : ℤ) (db : Db) : Prop
    extends LedgerKept owner finality db where
  tracked : ∀ t ∈ db.addressTotals.rows,
    InStep T db t ∨ φ ∧ DepthMoves T db.receipts.rows t.addressId

section frames

variable {owner : ReceiptUid → ℕ} {finality a : ℕ} {db db' : Db} {T : ℤ} {φ : Prop}
  {new : NewAddress} {createdAt now : Timestamp}

/-- What a write that leaves the ledger's columns alone may change. -/
structure SameLedger (db db' : Db) : Prop where
  receipts : db'.receipts = db.receipts
  issuedAddresses : db'.issuedAddresses = db.issuedAddresses
  stored : db'.metadata.isSome = db.metadata.isSome
  required : db'.storedRequiredConfirmations = db.storedRequiredConfirmations
  totals : db'.addressTotals.rows.map AddressTotals.ledger =
    db.addressTotals.rows.map AddressTotals.ledger

lemma SameLedger.mem (h : SameLedger db db') {t' : AddressTotals}
    (ht : t' ∈ db'.addressTotals.rows) : ∃ t ∈ db.addressTotals.rows, t.ledger = t'.ledger := by
  have hmem : t'.ledger ∈ db.addressTotals.rows.map AddressTotals.ledger :=
    h.totals ▸ List.mem_map_of_mem ht
  exact List.mem_map.mp hmem

lemma LedgerKept.congr (hk : LedgerKept owner finality db) (h : SameLedger db db')
    (htotals : db'.TotalsKept) : LedgerKept owner finality db' where
  owned := h.receipts ▸ hk.owned
  kept := htotals
  sums := h.receipts ▸ hk.sums
  right t' ht' := by
    obtain ⟨t, ht, heq⟩ := h.mem ht'
    simp only [AddressTotals.ledger, Prod.mk.injEq] at heq
    obtain ⟨ha, hc, hf, hr, hT, -⟩ := heq
    have hright := hk.right t ht
    refine ⟨?_, ?_, ?_⟩
    · rw [← hc, ← ha, hright.current, h.receipts]
    · rw [← hf, ← ha, ← hT, hright.finalized, h.receipts]
    · rw [← hr, ← hf, ← hc, hright.recent]
  array t' ht' := by
    obtain ⟨t, ht, heq⟩ := h.mem ht'
    simp only [AddressTotals.ledger, Prod.mk.injEq] at heq
    obtain ⟨ha, -, -, -, hT, hl⟩ := heq
    have harray := hk.array t ht
    rw [ArrayRight, ha, hT, hl] at harray
    rwa [ArrayRight, h.required, h.receipts]
  stored := h.stored ▸ hk.stored
  issued r hr := by
    rw [Db.issued, h.issuedAddresses]
    exact hk.issued r (h.receipts ▸ hr)

lemma Tracked.congr (hk : Tracked φ owner finality T db) (h : SameLedger db db')
    (htotals : db'.TotalsKept) : Tracked φ owner finality T db' where
  toLedgerKept := hk.toLedgerKept.congr h htotals
  tracked t' ht' := by
    obtain ⟨t, ht, heq⟩ := h.mem ht'
    simp only [AddressTotals.ledger, Prod.mk.injEq] at heq
    obtain ⟨ha, -, -, -, -, hl⟩ := heq
    have htracked := hk.tracked t ht
    rw [InStep, ha, hl] at htracked
    rwa [InStep, h.required, h.receipts]

lemma queue_sameLedger (now : Timestamp) (ids : List ℕ) (db : Db) :
    SameLedger db (queueWebhookDeliveriesForDirtyAddresses now ids db).2 := by
  have hl := queue_ledger now ids db
  obtain ⟨totals, deliveries, h⟩ := queue_frame now ids db
  rw [h] at hl ⊢
  exact ⟨rfl, rfl, rfl, rfl, hl⟩

/-- A new address has no receipts. -/
lemma LedgerKept.new_address (hk : LedgerKept owner finality db)
    (hi : a ∉ db.issuedAddresses.rows.map IssuedAddress.addressId) :
    ∀ r ∈ db.receipts.rows, r.addressId ≠ a := by
  intro r hr heq
  have hissued := hk.issued r hr
  rw [heq, Db.issued, Option.isSome_iff_exists] at hissued
  obtain ⟨x, hx⟩ := hissued
  exact hi (List.mem_map.mpr ⟨x, Table.mem_of_find? hx, Table.key_of_find? hx⟩)

lemma LedgerKept.allocate (hk : LedgerKept owner finality db)
    (h : allocateFreshAddress new createdAt db = .ok (a, db')) :
    LedgerKept owner finality db' := by
  have htotals := allocateFreshAddress_kept hk.kept h
  obtain ⟨hi, ht, rfl⟩ := allocateFreshAddress_ok h
  have hnone := hk.new_address hi
  have hview : view db.receipts.rows a = view [] a := by
    rw [view_eq_nil_iff.mpr fun ⟨r, hr, heq⟩ => hnone r hr heq]
    rfl
  refine ⟨⟨hk.owned, htotals, hk.sums, fun t ht' => ?_, fun t ht' => ?_⟩, hk.stored, fun r hr => ?_⟩
  · rcases List.mem_append.mp ht' with ht' | ht'
    · exact hk.right t ht'
    · rw [List.mem_singleton.mp ht']
      exact (zero_right finality a createdAt rfl).congr hview
  · rcases List.mem_append.mp ht' with ht' | ht'
    · exact hk.array t ht'
    · rw [List.mem_singleton.mp ht']
      rintro (hn | ⟨r, hr, heq⟩)
      · exact (congrArg (receivedByConfirmationsZat db.receipts.rows a 0) hn).symm
      · exact absurd heq (hnone r hr)
  · rw [Db.issued, Table.find?_insert]
    split_ifs
    · rfl
    · exact hk.issued r hr

lemma Tracked.allocate (hk : Tracked φ owner finality T db)
    (h : allocateFreshAddress new createdAt db = .ok (a, db')) :
    Tracked φ owner finality T db' := by
  refine ⟨hk.toLedgerKept.allocate h, ?_⟩
  obtain ⟨hi, ht, rfl⟩ := allocateFreshAddress_ok h
  intro t ht'
  rcases List.mem_append.mp ht' with ht' | ht'
  · exact hk.tracked t ht'
  · rw [List.mem_singleton.mp ht']
    refine Or.inl ?_
    rintro (hn | ⟨r, hr, heq⟩)
    · exact (congrArg (receivedByConfirmationsZat db.receipts.rows a T) hn).symm
    · exact absurd heq (hk.new_address hi r hr)

/-! ### Commits -/

variable {p : Pending} {label : String} {tip : ℤ}

lemma LedgerKept.commit (hk : LedgerKept owner finality db) (hp : p.Sound owner db)
    (hc : p.commit tip finality now label db = .ok db') : LedgerKept owner finality db' := by
  refine ⟨hk.toLedgerInv.commit hp hc, ?_, fun r hr => ?_⟩
  · rw [Pending.commit_ok hc]
    exact hk.stored
  · rw [Pending.commit_ok hc] at hr ⊢
    by_cases ha : r.addressId ∈ p.affected
    · exact (hk.kept _).symm.trans (Pending.commit_issued hc ha)
    · have hview : ∃ r' ∈ db.receipts.rows, r'.addressId = r.addressId := by
        by_contra hn
        exact view_eq_nil_iff.mp ((hp.unseen _ ha).trans (view_eq_nil_iff.mpr hn)) ⟨r, hr, rfl⟩
      obtain ⟨r', hr', heq⟩ := hview
      exact heq ▸ hk.issued r' hr'

/-- **A commit at the tip** recomputes what it affects in step, and leaves the rest tracked. -/
lemma Tracked.commit {ψ : Prop} (hk : Tracked φ owner finality T db) (hp : p.Sound owner db)
    (hc : p.commit T finality now label db = .ok db')
    (hmoves : φ → ∀ a ∉ p.affected, DepthMoves T db.receipts.rows a →
      ψ ∧ DepthMoves T p.receipts.rows a) : Tracked ψ owner finality T db' := by
  refine ⟨hk.toLedgerKept.commit hp hc, ?_⟩
  rw [Pending.commit_ok hc]
  intro t ht
  obtain ⟨t₀, ht₀, rfl⟩ := List.mem_map.mp ht
  by_cases ha : t₀.addressId ∈ p.affected
  · rw [Pending.retotaled, if_pos ha]
    exact Or.inl fun _ => rfl
  · rw [Pending.retotaled_of_notMem ha]
    refine (hk.tracked t₀ ht₀).imp (fun hstep hr => ?_) fun hm => hmoves hm.1 _ ha hm.2
    have harray : ArrayRight db.storedRequiredConfirmations db.receipts.rows
        { t₀ with lastComputedTipHeight := T } := hstep
    exact harray.congr (hp.unseen _ ha) hr

/-! ### Rows of addresses an operation leaves out -/

lemma revoke_depthMoves (ha : a ∉ (revokePending T now db).affected)
    (h : DepthMoves T db.receipts.rows a) :
    DepthMoves T (revokePending T now db).receipts.rows a := by
  obtain ⟨r, hr, heq, hact, hd⟩ := h
  have habove : aboveTip T r = false := by
    refine Bool.eq_false_iff.mpr fun h => ha ?_
    rw [revokePending, mem_idSet, ← heq]
    exact List.mem_map_of_mem (List.mem_filter.mpr ⟨hr, h⟩)
  have hf : (revokePending T now db).receipts.find? r.receiptUid = some r := by
    rw [find?_revoke, Db.row, Table.find?_of_mem hr]
    simp [habove]
  exact ⟨r, Table.mem_of_find? hf, heq, hact, hd⟩

lemma reconcile_depthMoves {receipts : List AttributedScannedReceipt} {startHeight endHeight : ℤ}
    (ho : Owned owner db.receipts) (hr : OwnedReceipts owner receipts)
    (ha : a ∉ (reconcilePending receipts startHeight endHeight now db).affected)
    (h : DepthMoves T db.receipts.rows a) :
    DepthMoves T (reconcilePending receipts startHeight endHeight now db).receipts.rows a := by
  simp only [reconcilePending, mem_idSet, List.mem_append, List.mem_map, List.mem_filter,
    List.mem_flatMap, not_or, not_exists, not_and, and_imp] at ha
  obtain ⟨hrev, htouched⟩ := ha
  obtain ⟨r, hmem, heq, hact, hd⟩ := h
  have hold : db.row r.receiptUid = some r := Table.find?_of_mem hmem
  by_cases hscan : ∃ e ∈ scannedByUid receipts, e.receiptUid = r.receiptUid
  · obtain ⟨e, he, hu⟩ := hscan
    have hea : e.addressId = a := by
      rw [hr e (mem_scannedByUid he), hu, ← ho r hmem, heq]
    have huntouched : e.addressId ∉ touchedBy _ e := hea ▸ htouched e he
    unfold touchedBy at huntouched
    rcases hp : priorOf (existingByUid db.receipts.rows startHeight endHeight) e.receiptUid with
      _ | old
    · simp [hp] at huntouched
    · obtain ⟨hmem', huid⟩ := priorOf_some hp
      obtain rfl : old = r := db.receipts.eq_of_key (List.mem_filter.mp hmem').1 hmem
        (huid.trans hu)
      simp only [hp] at huntouched
      split_ifs at huntouched with hc
      · simp at huntouched
      · simp only [Bool.or_eq_true, decide_eq_true_eq, not_or, Decidable.not_not, ne_eq,
          Bool.not_eq_true] at hc
        have hwritten : (reconcilePending receipts startHeight endHeight now db).receipts.find?
            e.receiptUid = some (mergedRow e old) := by
          rw [find?_reconcile he, hu, hold, Option.elim_some]
        simp only [changedBy, Bool.or_eq_false_iff, decide_eq_false_iff_not, not_not, ne_eq] at hc
        obtain ⟨-, ⟨⟨⟨⟨-, hheight⟩, -⟩, hdepth⟩, -⟩, hkind⟩ := hc
        simp only [isActiveMined, Bool.and_eq_true, decide_eq_true_eq] at hact
        refine ⟨_, Table.mem_of_find? hwritten, hea, ?_, ?_⟩
        · simp [isActiveMined, mergedRow, insertedRow, ← hkind, hact.1]
        · simpa only [mergedRow, insertedRow, ← hheight, ← hdepth] using hd
  · have hnone : ∀ e ∈ scannedByUid receipts, e.receiptUid ≠ r.receiptUid :=
      fun e he hu => hscan ⟨e, he, hu⟩
    have hkept : missingFrom (scannedByUid receipts) startHeight endHeight r = false :=
      Bool.eq_false_iff.mpr fun h => hrev r hmem h heq
    have hf : (reconcilePending receipts startHeight endHeight now db).receipts.find?
        r.receiptUid = some r := by
      rw [find?_reconcile_unscanned hnone, hold]
      simp [hkept]
    exact ⟨r, Table.mem_of_find? hf, heq, hact, hd⟩

/-- After the maturity pass no depth is left to move. -/
lemma Tracked.mature {threshold : ℕ} (hk : Tracked φ owner finality T db)
    (hc : (maturityPending T threshold db).commit T finality now label db = .ok db') :
    Tracked False owner finality T db' := by
  refine hk.commit (maturity_sound T threshold hk.owned) hc fun _ a ha hm => absurd ?_ ha
  obtain ⟨r, hr, rfl, hact, hd⟩ := hm
  refine mem_idSet.mpr (List.mem_map_of_mem (List.mem_filter.mpr ⟨hr, ?_⟩))
  simp [immature, hact, hd]

lemma Tracked.revoke (hk : Tracked φ owner finality T db)
    (hc : (revokePending T now db).commit T finality now label db = .ok db') :
    Tracked φ owner finality T db' :=
  hk.commit (revoke_sound T now hk.owned) hc fun hφ _ ha hm => ⟨hφ, revoke_depthMoves ha hm⟩

lemma Tracked.reconcile {receipts : List AttributedScannedReceipt} {startHeight endHeight : ℤ}
    (hk : Tracked φ owner finality T db) (hr : OwnedReceipts owner receipts)
    (hc : (reconcilePending receipts startHeight endHeight now db).commit T finality now label db =
      .ok db') : Tracked φ owner finality T db' :=
  hk.commit (reconcile_sound startHeight endHeight now hk.owned hr) hc
    fun hφ _ ha hm => ⟨hφ, reconcile_depthMoves hk.owned hr ha hm⟩

lemma Tracked.mempool {receipts : List AttributedScannedReceipt} {cutoff : Timestamp}
    {txids : List String} {threshold : ℕ} {revokeMissing : Bool} {at' : Timestamp}
    (hk : Tracked False owner finality T db) (hr : OwnedReceipts owner receipts)
    (hc : (mempoolPending cutoff txids receipts at' threshold revokeMissing db).commit T finality
      now label db = .ok db') : Tracked False owner finality T db' :=
  hk.commit (mempool_sound cutoff txids at' threshold revokeMissing hk.owned hr) hc
    fun h => h.elim

/-! ### What an iteration keeps -/

lemma row_sameLedger {config : Config} {m : ServiceMetadata}
    (h : ensureServiceMetadataRow config db = .ok (m, db')) (hs : db.metadata.isSome = true) :
    SameLedger db db' := by
  obtain ⟨rfl, hm | ⟨hm, -⟩⟩ := ensureServiceMetadataRow_ok h
  · exact ⟨rfl, rfl, hm ▸ rfl, by simp [Db.storedRequiredConfirmations, hm], rfl⟩
  · rw [hm] at hs
    cases hs

lemma status_sameLedger {state : SyncState} {reason : String} {tip scanned : ℤ}
    {m : ServiceMetadata} (h : recordSyncStatus state reason tip scanned now db = .ok (m, db')) :
    SameLedger db db' := by
  obtain ⟨current, _, hm, rfl, -, -, hreq⟩ := recordSyncStatus_ok h
  exact ⟨rfl, rfl, hm ▸ rfl, by simp [Db.storedRequiredConfirmations, hm, hreq], rfl⟩

lemma event_sameLedger {previous tip rewind : ℤ} {count : ℕ} {notes : String}
    (h : recordReorgEvent previous tip rewind count notes now db = .ok db') :
    SameLedger db db' := by
  obtain ⟨_, rfl⟩ := recordReorgEvent_ok h
  exact ⟨rfl, rfl, rfl, rfl, rfl⟩

/-- A new setting rebuilds every array at the tip its totals were computed at. -/
lemma LedgerKept.required (hk : LedgerKept owner finality db) (required : Option ℕ) :
    LedgerKept owner finality (applyRequiredConfirmations db required) := by
  have htotals := applyRequired_kept required hk.kept
  unfold applyRequiredConfirmations at htotals ⊢
  split_ifs at htotals ⊢ with h0
  · exact hk
  · obtain ⟨m, hm⟩ := Option.isSome_iff_exists.mp hk.stored
    refine ⟨⟨hk.owned, htotals, hk.sums, fun t ht => ?_, fun t ht => ?_⟩, by simp [hm], hk.issued⟩
    all_goals obtain ⟨t₀, ht₀, rfl⟩ := List.mem_map.mp ht
    · have hright := hk.right t₀ ht₀
      exact ⟨hright.current, hright.finalized, hright.recent⟩
    · intro _
      simp [Db.storedRequiredConfirmations, hm]

end frames

/-- Receipts are attributed to the address their uid belongs to. -/
def OwnedScan (owner : ReceiptUid → ℕ) (s : Scan) : Prop :=
  ∀ r ∈ s.receipts, ∀ a, s.find r.pool r.receiverFingerprint = some a → a = owner r.receiptUid

variable {owner : ReceiptUid → ℕ} {config : Config} {env : Env} {birthday : ℕ} {φ : Prop} {T : ℕ}
  {A : ℕ × Answer → Prop} {awaiting : Await} {metadata : ServiceMetadata} {α : Type}

lemma OwnedScan.owned {s : Scan} {tip threshold : ℕ} {observedAt : Timestamp}
    {out : List AttributedScannedReceipt} (h : OwnedScan owner s)
    (hatt : attributeScannedReceipts s.find tip threshold observedAt s.receipts = .ok out) :
    OwnedReceipts owner out := by
  intro e he
  obtain ⟨r, hr, a, ha, rfl⟩ := (mem_attributeScannedReceipts hatt).mp he
  exact h r hr a ha

lemma ledgerKept_maintained (owner : ReceiptUid → ℕ) (config : Config) :
    Maintained config (OwnedScan owner) (LedgerKept owner config.finalityConfirmations) where
  issue _ _ _ _ _ hk h := hk.allocate h
  row db m db' hk h := by
    have hs := row_sameLedger h hk.stored
    obtain ⟨rfl, -⟩ := ensureServiceMetadataRow_ok h
    exact hk.congr hs hk.kept
  required _ hk := hk.required config.requiredConfirmations
  ledger _ _ op _ _ _ hk hscan h := by
    obtain ⟨p, label, hs, -, hc⟩ := op.run_ok h
    refine hk.commit (hs owner hk.owned ?_) hc
    rcases hscan with h0 | ⟨s, tip, threshold, observedAt, hS, hatt⟩
    · rw [h0]
      exact fun e he => absurd he (by simp)
    · exact hS.owned hatt
  queue now ids db hk := hk.congr (queue_sameLedger now ids db) (queue_kept now ids hk.kept)
  status _ _ _ _ _ _ _ _ hk h := by
    have hs := status_sameLedger h
    obtain ⟨_, _, -, rfl, -⟩ := recordSyncStatus_ok h
    exact hk.congr hs hk.kept
  event _ _ _ _ _ _ _ _ hk h := by
    have hs := event_sameLedger h
    obtain ⟨_, rfl⟩ := recordReorgEvent_ok h
    exact hk.congr hs hk.kept
  recover _ _ hk := hk.congr ⟨rfl, rfl, rfl, rfl, rfl⟩ hk.kept

/-! ### An iteration from its sampled tip -/

/-- The condition the stages of an iteration at `T` carry. -/
def TrackedAt (φ : Prop) (owner : ReceiptUid → ℕ) (config : Config) (T : ℕ) (w : World) : Prop :=
  Tracked φ owner config.finalityConfirmations T w.db

/-- Nothing is asked of a stage that ends the iteration. -/
def Ended (_ : Halt) (_ : World) : Prop := True

lemma TrackedAt.stable : Stable env (TrackedAt φ owner config T) :=
  Stable.of_db fun _ _ _ _ _ hw h => hw.allocate h

lemma transaction_tracked {ψ : Prop} {op : Timestamp → Db → Except AppError (α × Db)}
    (hop : ∀ now db a db', Tracked φ owner config.finalityConfirmations T db →
      op now db = .ok (a, db') → Tracked ψ owner config.finalityConfirmations T db') :
    SyncTriple A (OwnedScan owner) (TrackedAt φ owner config T) (transaction env awaiting op)
      (fun _ => TrackedAt ψ owner config T) Ended :=
  (transaction_rule TrackedAt.stable fun w now a db hw hok => hop now w.db a db hw hok).halts
    fun _ _ _ => trivial

lemma queue_tracked {ids : List ℕ} :
    SyncTriple A (OwnedScan owner) (TrackedAt φ owner config T)
      (queueWebhookDeliveries env awaiting ids) (fun _ => TrackedAt φ owner config T) Ended :=
  transaction_tracked fun now db a db' hw hok => by
    have hdb : (queueWebhookDeliveriesForDirtyAddresses now ids db).2 = db' := by
      rw [Except.ok.inj hok]
    exact hdb ▸ hw.congr (queue_sameLedger now ids db) (queue_kept now ids hw.kept)

lemma status_tracked {state : SyncState} {reason : String} {seen scanned : ℤ} :
    SyncTriple A (OwnedScan owner) (TrackedAt φ owner config T)
      (transaction env awaiting fun now => recordSyncStatus state reason seen scanned now)
      (fun _ => TrackedAt φ owner config T) Ended :=
  transaction_tracked fun now db m db' hw hok => by
    have hs := status_sameLedger hok
    obtain ⟨_, _, -, rfl, -⟩ := recordSyncStatus_ok hok
    exact hw.congr hs hw.kept

lemma reconcileRange_tracked {batch : ScanBatch} (hb : batch.startHeight ≤ batch.endHeight) :
    SyncTriple A (OwnedScan owner) (TrackedAt φ owner config T)
      (reconcileRange env config awaiting T batch) (fun _ => TrackedAt φ owner config T) Ended := by
  refine (reconcileRange_rule (F := fun _ => TrackedAt φ owner config T) hb TrackedAt.stable
    (fun _ hw => hw) (fun _ => TrackedAt.stable) (fun _ _ hw => hw) ?_).halts fun _ _ _ => trivial
  intro find t answered observedAt attributed w now out db hw _ hS hatt hok
  exact hw.reconcile (hS.owned hatt) (reconcile_ok hok).2

lemma revokeAboveTip_tracked {L : ℤ} :
    SyncTriple A (OwnedScan owner) (TrackedAt φ owner config T) (revokeAboveTip env config L T)
      (fun _ => TrackedAt φ owner config T) Ended :=
  SyncTriple.ite (fun _ => transaction_tracked fun _ _ _ _ hw hok => hw.revoke (revoke_ok hok).2)
    fun _ => SyncTriple.pure fun _ hw => hw

lemma reconcileOverlap_tracked {L : ℤ} {finality : ℕ} :
    SyncTriple A (OwnedScan owner) (TrackedAt φ owner config T)
      (reconcileOverlap env config T (reorgOverlapBatch birthday L T finality))
      (fun _ => TrackedAt φ owner config T) Ended := by
  rcases ho : reorgOverlapBatch birthday L T finality with _ | batch
  · exact SyncTriple.pure fun _ hw => hw
  · exact reconcileRange_tracked (reorgOverlapBatch_le ho)

lemma logReorg_tracked {rewind : ℕ} {reorg : ReceiptRangeReconciliation} {queued : List ℕ} :
    SyncTriple A (OwnedScan owner) (TrackedAt φ owner config T)
      (logReorg env metadata T rewind reorg queued) (fun _ => TrackedAt φ owner config T)
      Ended := by
  refine SyncTriple.ite (fun _ => transaction_tracked fun now db a db' hw hok => ?_)
    fun _ => SyncTriple.pure fun _ hw => hw
  obtain ⟨db₁, hok, heq⟩ := map_ok hok
  cases heq
  have hs := event_sameLedger hok
  obtain ⟨_, rfl⟩ := recordReorgEvent_ok hok
  exact hw.congr hs hw.kept

lemma markCatchingUp_tracked {plan : ScanRangePlan} :
    SyncTriple A (OwnedScan owner) (TrackedAt φ owner config T)
      (markCatchingUp env metadata T plan) (fun _ => TrackedAt φ owner config T) Ended := by
  unfold markCatchingUp
  split
  · exact status_tracked.bind fun _ => SyncTriple.pure fun _ hw => hw
  · exact SyncTriple.pure fun _ hw => hw

lemma scanForward_tracked (hT : T ≤ u32Max) {next catchUp size : ℕ} :
    SyncTriple A (OwnedScan owner) (TrackedAt φ owner config T)
      (scanForward env config metadata T (planScanRange next T catchUp size))
      (fun _ => TrackedAt φ owner config T) Ended := by
  unfold scanForward
  rcases planScanRange_cases next T catchUp size with
    ⟨-, hf, -⟩ | ⟨first, -, hf, hfinal, hstart, hend⟩
  · rw [hf]
    exact SyncTriple.pure fun _ hw => hw
  · rw [hf, hfinal]
    obtain ⟨h1, h2⟩ := hend hT
    refine (batches_rule 0 (fun _ => TrackedAt φ owner config T) hT (fun batch _ hb _ => ?_)
      (fun _ _ hw => hw) (fun _ _ _ => trivial) _ _ (Nat.zero_le _) (hstart ▸ h1) h2).post
        fun _ _ hw => hw.2.2
    exact (reconcileRange_tracked hb).bind fun _ => queue_tracked.bind fun _ =>
      status_tracked.bind fun _ => SyncTriple.pure fun _ hw => hw

/-- **The maturity pass** brings every array in step. -/
lemma advanceMaturity_tracked :
    SyncTriple A (OwnedScan owner) (TrackedAt φ owner config T) (advanceMaturity env config T)
      (fun _ => TrackedAt False owner config T) Ended :=
  SyncTriple.bind (R := fun _ => TrackedAt False owner config T)
    (transaction_tracked fun _ _ _ _ hw hok => hw.mature (maturity_ok hok).2)
    fun _ => queue_tracked.bind fun _ => SyncTriple.pure fun _ hw => hw

lemma syncMempool_tracked {L : ℕ} :
    SyncTriple A (OwnedScan owner) (TrackedAt False owner config T) (syncMempool env config T L)
      (fun _ => TrackedAt False owner config T) Ended := by
  unfold syncMempool
  refine SyncTriple.ite (fun _ => ?_) fun _ => SyncTriple.pure fun _ hw => hw
  refine (mempool_rule (K := fun _ => TrackedAt False owner config T)
    (F := fun _ _ _ => TrackedAt False owner config T) TrackedAt.stable (fun _ _ hw _ => hw)
    (fun _ => TrackedAt.stable) (fun _ _ hw => hw) (fun _ _ _ hw _ => hw)
    (fun _ _ _ => TrackedAt.stable) (fun _ _ _ _ hw => hw) ?_ (fun _ => TrackedAt.stable)
    fun out w now hw => hw.congr (queue_sameLedger now out.affectedAddressIds w.db)
      (queue_kept now _ hw.kept)).halts fun _ _ _ => trivial
  intro s raw find observedAt attributed revoke w out db hw hS hatt _ hok
  obtain ⟨cutoff, -, -, hc⟩ := mempool_ok hok
  exact hw.mempool (hS.owned hatt) hc

/-- **An iteration that completes** leaves every array in step with its tip, if each was in
step or tracked when the tip was sampled. -/
lemma syncAt_tracked (hT : T ≤ u32Max) :
    SyncTriple A (OwnedScan owner) (TrackedAt True owner config T)
      (syncAt env config birthday metadata T)
      (fun t w => t = T ∧ TrackedAt False owner config T w) Ended := by
  refine revokeAboveTip_tracked.bind fun _ => reconcileOverlap_tracked.bind fun _ =>
    queue_tracked.bind fun _ => logReorg_tracked.bind fun _ => markCatchingUp_tracked.bind
      fun _ => (scanForward_tracked hT).bind fun _ => advanceMaturity_tracked.bind fun _ =>
        syncMempool_tracked.bind fun _ => status_tracked.bind fun _ =>
          SyncTriple.pure fun _ hw => ⟨rfl, hw⟩

/-! ### Right and fresh arrays -/

/-- What the array of an address with receipts holds at a tip, for the setting `required`. -/
structure ArraySpec (required : Option ℕ) (rows : List ReceiptRow) (tip : ℤ)
    (t : AddressTotals) : Prop where
  absent : required = none → t.receivedByConfirmations = none
  present : ∀ n, required = some n → (∃ r ∈ rows, r.addressId = t.addressId) →
    ∃ l, t.receivedByConfirmations = some l ∧ l.length = n + 1 ∧
      (∀ i ≤ n, l[i]? = some (receivedAtDepth rows t.addressId tip i)) ∧
      l.Pairwise (· ≥ ·) ∧ l.head? = some t.currentTotalZat

lemma InStep.spec {db : Db} {tip : ℤ} {t : AddressTotals} (h : InStep tip db t)
    (ht : t.currentTotalZat = eligibleTotalZat db.receipts.rows t.addressId) :
    ArraySpec db.storedRequiredConfirmations db.receipts.rows tip t where
  absent hn := by
    rw [h (Or.inl hn), hn, receivedByConfirmationsZat_none]
  present n hn hr := by
    refine ⟨_, (h (Or.inr hr)).trans (by rw [hn, receivedByConfirmationsZat_eq]), by simp,
      fun i hi => ?_, ?_, ?_⟩
    · rw [List.getElem?_map, List.getElem?_range (by omega), Option.map_some]
    · refine List.pairwise_map.mpr (List.pairwise_lt_range.imp fun hij => ?_)
      exact receivedAtDepth_anti _ _ _ hij.le
    · rw [List.range_succ_eq_map, List.map_cons, List.head?_cons, receivedAtDepth_zero, ht]

/-- A call on the database of a service. -/
inductive LedgerCall where
  | ledger (now : Timestamp) (op : LedgerOp)
  | applyRequiredConfirmations (required : Option ℕ)
  | allocateFreshAddress (createdAt : Timestamp) (new : NewAddress)

def LedgerCall.receipts : LedgerCall → List AttributedScannedReceipt
  | ledger _ op => op.receipts
  | _ => []

/-- A call that fails is rolled back. -/
def LedgerCall.step (cutoffOf : Timestamp → Except AppError Timestamp) (finality : ℕ) (db : Db) :
    LedgerCall → Db
  | ledger now op => LedgerOp.step cutoffOf finality db (now, op)
  | applyRequiredConfirmations required => ZcashPayment.applyRequiredConfirmations db required
  | allocateFreshAddress createdAt new => issueOne createdAt db new

lemma LedgerKept.step {db : Db} {finality : ℕ} {call : LedgerCall}
    (hk : LedgerKept owner finality db) (hr : OwnedReceipts owner call.receipts)
    (cutoffOf : Timestamp → Except AppError Timestamp) :
    LedgerKept owner finality (call.step cutoffOf finality db) := by
  cases call with
  | ledger now op =>
    show LedgerKept owner finality (LedgerOp.step cutoffOf finality db (now, op))
    unfold LedgerOp.step
    rcases h : op.run cutoffOf finality now db with e | ⟨ids, db'⟩
    · exact hk
    · obtain ⟨p, label, hs, -, hc⟩ := op.run_ok h
      exact hk.commit (hs owner hk.owned hr) hc
  | applyRequiredConfirmations required => exact hk.required required
  | allocateFreshAddress createdAt new =>
    show LedgerKept owner finality (issueOne createdAt db new)
    unfold issueOne
    rcases h : ZcashPayment.allocateFreshAddress new createdAt db with e | ⟨a, db'⟩
    · exact hk
    · exact hk.allocate h

/-- The database after any calls on a fresh one with its metadata row. -/
def afterCalls (cutoffOf : Timestamp → Except AppError Timestamp) (config : Config)
    (calls : List LedgerCall) : Db :=
  calls.foldl (LedgerCall.step cutoffOf config.finalityConfirmations) (startDb config "" [])

lemma afterCalls_kept (cutoffOf : Timestamp → Except AppError Timestamp) (config : Config)
    {calls : List LedgerCall} (hcalls : ∀ c ∈ calls, OwnedReceipts owner c.receipts) :
    LedgerKept owner config.finalityConfirmations (afterCalls cutoffOf config calls) := by
  have hrun : ∀ (calls : List LedgerCall) db, (∀ c ∈ calls, OwnedReceipts owner c.receipts) →
      LedgerKept owner config.finalityConfirmations db →
      LedgerKept owner config.finalityConfirmations
        (calls.foldl (LedgerCall.step cutoffOf config.finalityConfirmations) db) := by
    intro calls
    induction calls with
    | nil => exact fun _ _ hk => hk
    | cons c calls ih =>
      exact fun db hc hk => ih _ (fun c' hc' => hc c' (List.mem_cons_of_mem c hc'))
        (hk.step (hc c List.mem_cons_self) cutoffOf)
  obtain ⟨hinv, hrows⟩ := startDb_inv owner config config.finalityConfirmations "" []
  refine hrun calls _ hcalls ⟨hinv, ?_, fun r hr => ?_⟩
  · simp only [startDb, issueAll, List.foldl_nil, ensureServiceMetadata, ensureServiceMetadataRow,
      Db.fresh, bind, Except.bind, pure, Except.pure]
    unfold applyRequiredConfirmations
    split_ifs <;> rfl
  · rw [hrows] at hr
    cases hr

/-- When its tip is sampled, the iteration finds every array in step with it, or its address
with a row whose depth moves. -/
def ArraysTracked (env : Env) (config : Config) (w : World) : Prop :=
  ∀ m T w₁, sampleTip env config { w with answers := [], scans := [] } = (.ok (m, T), w₁) →
    ∀ t ∈ w₁.db.addressTotals.rows,
      InStep T w₁.db t ∨ DepthMoves T w₁.db.receipts.rows t.addressId

lemma iterate_tracked {w : World} (hk : LedgerKept owner config.finalityConfirmations w.db)
    (htracked : ArraysTracked env config w) {t : ℕ}
    (hok : (w.iterate env config birthday).1 = .ok t)
    (hS : ∀ s ∈ (w.iterate env config birthday).2.scans, OwnedScan owner s) :
    TrackedAt False owner config t (w.iterate env config birthday).2 := by
  have hsample := ((ledgerKept_maintained owner config).sampled : SyncTriple (fun _ => True)
    (OwnedScan owner) _ (sampleTip env config) _ _) { w with answers := [], scans := [] }
    fun _ => hk
  unfold ArraysTracked at htracked
  unfold World.iterate syncOnce at *
  simp only [bind] at *
  rcases hs : sampleTip env config { w with answers := [], scans := [] } with ⟨e | ⟨m, T⟩, w₁⟩
  all_goals simp only [hs] at hsample hok hS ⊢
  · cases hok
  · have hin : ∀ w₂ : World, (syncAt env config birthday m T w₁).2 = w₂ →
        w₂.Within (fun _ => True) (OwnedScan owner) := by
      rintro _ rfl
      exact ⟨fun _ _ => trivial, hS⟩
    have hext : w₁.Extends (syncAt env config birthday m T w₁).2 :=
      (extends_recorded env w₁).syncAt w₁ ⟨fun _ hx => hx, fun _ hx => hx⟩
    obtain ⟨hk₁, hT⟩ := hsample ((hin _ rfl).of_extends hext)
    have hpre : TrackedAt True owner config T w₁ :=
      ⟨hk₁, fun t ht => (htracked m T w₁ hs t ht).imp id fun h => ⟨trivial, h⟩⟩
    have hsync := (syncAt_tracked hT : SyncTriple (fun _ => True) (OwnedScan owner)
      (TrackedAt True owner config T) (syncAt env config birthday m T) _ _) w₁ fun _ => hpre
    rcases hr : syncAt env config birthday m T w₁ with ⟨e | t', w₂⟩
    all_goals simp only [hr] at hsync hok hin ⊢
    · cases hok
    · obtain ⟨rfl, hfresh⟩ := hsync (hin _ rfl)
      obtain rfl := Except.ok.inj hok
      exact hfresh

/-- The world before the iteration `k` of a service that starts on the database `db`. -/
def servedFrom (env : Env) (config : Config) (birthday : ℕ) (db : Db) (k : ℕ) : World :=
  World.at env config birthday ⟨db, 0, [], [], []⟩ k

lemma World.next_of_ok {w : World} {t : ℕ} (h : (w.iterate env config birthday).1 = .ok t) :
    w.next env config birthday = (w.iterate env config birthday).2 := by
  unfold World.next
  rcases hi : w.iterate env config birthday with ⟨e | t', w'⟩
  · rw [hi] at h
    cases h
  · rfl

/-- Every array is the one the stored setting promises, at the tip `tip` gives for its row. -/
def ArraysAt (tip : AddressTotals → ℤ) (db : Db) : Prop :=
  ∀ t ∈ db.addressTotals.rows,
    ArraySpec db.storedRequiredConfirmations db.receipts.rows (tip t) t

/-- **Arrays are right, and fresh after an iteration.** After any calls, the array of every
address is the one its setting promises at the tip its totals were computed at. In every run of
iterations that follows, an iteration that completes leaves the arrays that the setting promises
at its tip, if it has found each in step with that tip or its address with a depth that moves. -/
theorem arrays_right_and_fresh (owner : ReceiptUid → ℕ)
    (cutoffOf : Timestamp → Except AppError Timestamp) (env : Env) (config : Config)
    (calls : List LedgerCall) (birthday n : ℕ)
    (hcalls : ∀ c ∈ calls, OwnedReceipts owner c.receipts)
    (hscans : ∀ k ≤ n, ∀ s ∈ (servedFrom env config birthday
      (afterCalls cutoffOf config calls) (k + 1)).scans, OwnedScan owner s)
    (htracked : ∀ k ≤ n, ∀ T, ((servedFrom env config birthday
        (afterCalls cutoffOf config calls) k).iterate env config birthday).1 = .ok T →
      ArraysTracked env config
        (servedFrom env config birthday (afterCalls cutoffOf config calls) k)) :
    ArraysAt (·.lastComputedTipHeight) (afterCalls cutoffOf config calls) ∧
    ∀ k ≤ n, ∀ T, ((servedFrom env config birthday
        (afterCalls cutoffOf config calls) k).iterate env config birthday).1 = .ok T →
      ArraysAt (fun _ => T)
        (servedFrom env config birthday (afterCalls cutoffOf config calls) (k + 1)).db := by
  have hkept := afterCalls_kept cutoffOf config hcalls
  refine ⟨fun t ht => ?_, fun k hk T hok t ht => ?_⟩
  · have hstep : InStep t.lastComputedTipHeight (afterCalls cutoffOf config calls) t :=
      hkept.array t ht
    exact hstep.spec (hkept.right t ht).current
  · have hreached : LedgerKept owner config.finalityConfirmations
        (servedFrom env config birthday (afterCalls cutoffOf config calls) k).db :=
      (ledgerKept_maintained owner config).reached hkept fun i hi => hscans i (by omega)
    have hnext : servedFrom env config birthday (afterCalls cutoffOf config calls) (k + 1) =
        ((servedFrom env config birthday (afterCalls cutoffOf config calls) k).iterate env config
          birthday).2 := World.next_of_ok hok
    have hfresh := iterate_tracked hreached (htracked k hk T hok) hok (hnext ▸ hscans k hk)
    rw [← hnext] at hfresh
    have hstep := (hfresh.tracked t ht).resolve_right fun h => h.1
    exact hstep.spec (hfresh.right t ht).current

/-! ### A tip that returns -/

instance (T : ℤ) (db : Db) (t : AddressTotals) : Decidable (InStep T db t) :=
  inferInstanceAs (Decidable (_ ∨ _ → _))

instance (T : ℤ) (rows : List ReceiptRow) (a : ℕ) : Decidable (DepthMoves T rows a) :=
  inferInstanceAs (Decidable (∃ r ∈ rows, _))

lemma arraysTracked_of_sample {w : World} {T : ℕ}
    (hT : (sampleTip env config { w with answers := [], scans := [] }).1.map Prod.snd = .ok T)
    (h : ∀ t ∈ (sampleTip env config
        { w with answers := [], scans := [] }).2.db.addressTotals.rows,
      InStep T (sampleTip env config { w with answers := [], scans := [] }).2.db t ∨
        DepthMoves T (sampleTip env config
          { w with answers := [], scans := [] }).2.db.receipts.rows t.addressId) :
    ArraysTracked env config w := by
  intro m T' w₁ hs
  rw [hs] at hT h
  obtain rfl : T' = T := Except.ok.inj hT
  exact h

/-- Two payments to one address, at heights 7 and 8. -/
def twoPayments : ChainView :=
  .ofList [(7, paymentTx "aa" 5), (8, paymentTx "bb" 3)] (by decide)

def oneAddress : List LedgerCall := [.allocateFreshAddress "t0" testAddress]

def risingTipEnv : Env :=
  scriptedEnv (fun t => if t ≤ 18 then 10 else 11) (fun _ => twoPayments) fun _ => false

/-- The tip rises from 10 to 11, and so do the depths. -/
theorem arrays_fresh_at_a_rising_tip :
    ArraysAt (fun _ => 11)
      (servedFrom risingTipEnv testConfig 1 (afterCalls .ok testConfig oneAddress) 2).db := by
  have hfound : ∀ k ≤ 1, ∀ s ∈ (servedFrom risingTipEnv testConfig 1
      (afterCalls .ok testConfig oneAddress) (k + 1)).scans, ∀ r ∈ s.receipts,
        s.find r.pool r.receiverFingerprint = some 1 := by
    decide +kernel
  refine (arrays_right_and_fresh (fun _ => 1) .ok risingTipEnv testConfig oneAddress 1 1 ?_ ?_ ?_).2
    1 le_rfl 11 (by decide +kernel)
  · simp [oneAddress, LedgerCall.receipts, OwnedReceipts]
  · intro k hk s hs r hr a ha
    rw [hfound k hk s hs r hr] at ha
    exact (Option.some.inj ha).symm
  · intro k hk T _
    obtain rfl | rfl : k = 0 ∨ k = 1 := by omega
    · exact arraysTracked_of_sample (T := 10) (by decide +kernel) (by decide +kernel)
    · exact arraysTracked_of_sample (T := 11) (by decide +kernel) (by decide +kernel)

/-- The tip is 10, then 7 for one iteration, whose overlap fetch fails, and 10 again. -/
def returningTipEnv : Env :=
  scriptedEnv (fun t => if t ≤ 18 then 10 else if t ≤ 23 then 7 else 10) (fun _ => twoPayments)
    fun t => t = 23

/-- **A stale array.** The revocation above the dropped tip recomputes the address at tip 7, the
failed overlap ends the iteration before its maturity pass, and at tip 10 no depth has moved. -/
theorem array_stale_after_a_completed_iteration :
    let w := servedFrom returningTipEnv testConfig 1 (afterCalls .ok testConfig oneAddress)
    ((w 1).iterate returningTipEnv testConfig 1).1 =
        .error (.failed .overlap (.wallet "unavailable")) ∧
      ((w 2).iterate returningTipEnv testConfig 1).1 = .ok 10 ∧
      (∀ r ∈ (w 3).db.receipts.rows, isActiveMined r = true → r.minedHeight ≤ 10) ∧
      ¬ArraysAt (fun _ => 10) (w 3).db := by
  intro w
  have hstale : ∃ t ∈ (w 3).db.addressTotals.rows, t.receivedByConfirmations = some [5, 5, 0] ∧
      receivedAtDepth (w 3).db.receipts.rows t.addressId 10 2 = 5 ∧
      (w 3).db.storedRequiredConfirmations = some 2 ∧
      ∃ r ∈ (w 3).db.receipts.rows, r.addressId = t.addressId := by
    decide +kernel
  refine ⟨by decide +kernel, by decide +kernel, by decide +kernel, fun h => ?_⟩
  obtain ⟨t, ht, harray, hsum, hrequired, hr⟩ := hstale
  obtain ⟨l, hl, -, hel, -⟩ := (h t ht).present 2 hrequired hr
  obtain rfl : [5, 5, 0] = l := Option.some.inj (harray.symm.trans hl)
  have hlast := hel 2 le_rfl
  rw [hsum] at hlast
  simp at hlast

end ZcashPayment

import ZcashPayment.Reorgs

/-!
Invariants of a running service.

What issuing, every ledger operation, the queue and the writes of the metadata row keep holds
in every world a service reaches, however its iterations end.
-/

namespace ZcashPayment

open Prog

/-- The receipts an iteration hands to an operation: those of one scan, if any. -/
def FromScan (S : Scan → Prop) (receipts : List AttributedScannedReceipt) : Prop :=
  receipts = [] ∨ ∃ s tip threshold observedAt, S s ∧
    attributeScannedReceipts s.find tip threshold observedAt s.receipts = .ok receipts

/-- What an iteration and a restart keep of the database, as far as `S` says of the scans. -/
structure Maintained (config : Config) (S : Scan → Prop) (I : Db → Prop) : Prop where
  issue : ∀ new createdAt db a db', I db → allocateFreshAddress new createdAt db = .ok (a, db') →
    I db'
  row : ∀ db m db', I db → ensureServiceMetadataRow config db = .ok (m, db') → I db'
  required : ∀ db, I db → I (applyRequiredConfirmations db config.requiredConfirmations)
  ledger : ∀ cutoffOf now (op : LedgerOp) db ids db', I db → FromScan S op.receipts →
    op.run cutoffOf config.finalityConfirmations now db = .ok (ids, db') → I db'
  queue : ∀ now ids db, I db → I (queueWebhookDeliveriesForDirtyAddresses now ids db).2
  status : ∀ state reason tip scanned now db m db', I db →
    recordSyncStatus state reason tip scanned now db = .ok (m, db') → I db'
  event : ∀ previous tip rewind count notes now db db', I db →
    recordReorgEvent previous tip rewind count notes now db = .ok db' → I db'
  recover : ∀ now db, I db → I (recoverInterruptedWebhookDeliveries now db).2

namespace Maintained

variable {env : Env} {config : Config} {birthday : ℕ} {A : ℕ × Answer → Prop} {S : Scan → Prop}
  {I : Db → Prop} {awaiting : Await} {metadata : ServiceMetadata} {tip : ℕ} {α : Type}
  (h : Maintained config S I)
include h

lemma stable : Stable env fun w => I w.db := Stable.of_db h.issue

lemma transaction {op : Timestamp → Db → Except AppError (α × Db)}
    (hop : ∀ now db a db', I db → op now db = .ok (a, db') → I db') :
    SyncTriple A S (fun w => I w.db) (ZcashPayment.transaction env awaiting op)
      (fun _ w => I w.db) fun _ w => I w.db :=
  (transaction_rule h.stable fun w now a db hw hok => hop now w.db a db hw hok).halts
    fun _ _ hw => hw.1

lemma queued {ids : List ℕ} :
    SyncTriple A S (fun w => I w.db) (queueWebhookDeliveries env awaiting ids)
      (fun _ w => I w.db) fun _ w => I w.db :=
  (queue_rule h.stable fun w now hw => h.queue now ids w.db hw).halts fun _ _ hw => hw.1

lemma recorded {state : SyncState} {reason : String} {seen scanned : ℤ} :
    SyncTriple A S (fun w => I w.db)
      (ZcashPayment.transaction env awaiting
        fun now => recordSyncStatus state reason seen scanned now)
      (fun _ w => I w.db) fun _ w => I w.db :=
  h.transaction fun now db m db' => h.status state reason seen scanned now db m db'

lemma reconciled {batch : ScanBatch} (hb : batch.startHeight ≤ batch.endHeight) :
    SyncTriple A S (fun w => I w.db) (reconcileRange env config awaiting tip batch)
      (fun _ w => I w.db) fun _ w => I w.db := by
  refine (reconcileRange_rule (F := fun _ w => I w.db) hb h.stable (fun _ hw => hw)
    (fun _ => h.stable) (fun _ _ hw => hw) ?_).halts fun _ _ hw => hw.1
  intro find t answered observedAt attributed w now out db hw _ hS hatt hok
  refine h.ledger env.mempoolFreshCutoff now (.reconcileAttributedReceiptsInRange attributed
    batch.startHeight batch.endHeight tip) w.db out.affectedAddressIds db hw
    (Or.inr ⟨_, _, _, _, hS, hatt⟩) ?_
  simp only [LedgerOp.run, hok]
  rfl

lemma mempoolReconciled {revokeMissing : Bool} :
    SyncTriple A S (fun w => I w.db) (reconcileCurrentMempool env config tip revokeMissing)
      (fun _ w => I w.db) fun _ w => I w.db := by
  refine (mempool_rule (K := fun _ w => I w.db) (F := fun _ _ _ w => I w.db) h.stable
    (fun _ _ hw _ => hw) (fun _ => h.stable) (fun _ _ hw => hw) (fun _ _ _ hw _ => hw)
    (fun _ _ _ => h.stable) (fun _ _ _ _ hw => hw) ?_ (fun _ => h.stable)
    fun out w now hw => h.queue now out.affectedAddressIds w.db hw).halts fun e w hw => ?_
  · intro s raw find observedAt attributed revoke w out db hw hS hatt _ hok
    refine h.ledger env.mempoolFreshCutoff observedAt
      (.reconcileMempoolSnapshot s.current attributed tip config.webhookReportConfirmations revoke)
      w.db out.affectedAddressIds db hw
      (Or.inr ⟨_, _, _, _, hS, hatt⟩) ?_
    simp only [LedgerOp.run, hok]
    rfl
  · rcases hw with hw | ⟨out, hw, -⟩
    · exact hw.1
    · exact hw

lemma revoked {L : ℤ} :
    SyncTriple A S (fun w => I w.db) (revokeAboveTip env config L tip) (fun _ w => I w.db)
      fun _ w => I w.db := by
  refine SyncTriple.ite (fun _ => h.transaction fun now db out db' hw hok => ?_)
    fun _ => SyncTriple.pure fun _ hw => hw
  refine h.ledger env.mempoolFreshCutoff now (.revokeMinedReceiptsAboveTip tip) db
    out.affectedAddressIds db' hw (Or.inl rfl) ?_
  simp only [LedgerOp.run, hok]
  rfl

lemma matured :
    SyncTriple A S (fun w => I w.db) (advanceMaturity env config tip) (fun _ w => I w.db)
      fun _ w => I w.db := by
  refine (h.transaction fun now db ids db' hw hok => ?_).bind fun ids => h.queued.bind
    fun _ => SyncTriple.pure fun _ hw => hw
  exact h.ledger env.mempoolFreshCutoff now (.advanceReceiptMaturity tip
    config.webhookReportConfirmations) db ids db' hw (Or.inl rfl) hok

lemma batchScanned {batch : ScanBatch} (hb : batch.startHeight ≤ batch.endHeight) :
    SyncTriple A S (fun w => I w.db) (scanBatch env config tip batch) (fun _ w => I w.db)
      fun _ w => I w.db :=
  (h.reconciled hb).bind fun _ => h.queued.bind fun _ => h.recorded.bind fun _ =>
    SyncTriple.pure fun _ hw => hw

lemma scannedForward (hT : tip ≤ u32Max) {next catchUp size : ℕ} :
    SyncTriple A S (fun w => I w.db)
      (scanForward env config metadata tip (planScanRange next tip catchUp size))
      (fun _ w => I w.db) fun _ w => I w.db := by
  unfold scanForward
  rcases planScanRange_cases next tip catchUp size with
    ⟨-, hf, -⟩ | ⟨first, -, hf, hfinal, hstart, hend⟩
  · rw [hf]
    exact SyncTriple.pure fun w hw => hw
  · rw [hf, hfinal]
    obtain ⟨h1, h2⟩ := hend hT
    exact (batches_rule 0 (fun _ w => I w.db) hT (fun batch _ hb _ => h.batchScanned hb)
      (fun _ _ hw => hw) (fun _ _ hw => hw) _ _ (Nat.zero_le _) (hstart ▸ h1) h2).post
        fun _ _ hw => hw.2.2

lemma finished {L : ℕ} {observed : List ℕ} :
    SyncTriple A S (fun w => I w.db) (finishSync env config tip L observed) (fun _ w => I w.db)
      fun _ w => I w.db := by
  refine h.matured.bind fun matured => SyncTriple.bind (R := fun _ w => I w.db)
    (SyncTriple.ite (fun _ => h.mempoolReconciled) fun _ => SyncTriple.pure fun _ hw => hw)
    fun _ => h.recorded.bind fun _ => SyncTriple.pure fun _ hw => hw

lemma reconciledOverlap {L : ℤ} {finality : ℕ} :
    SyncTriple A S (fun w => I w.db)
      (reconcileOverlap env config tip (reorgOverlapBatch birthday L tip finality))
      (fun _ w => I w.db) fun _ w => I w.db := by
  rcases ho : reorgOverlapBatch birthday L tip finality with _ | batch
  · exact SyncTriple.pure fun _ hw => hw
  · exact h.reconciled (reorgOverlapBatch_le ho)

lemma sampled : SyncTriple A S (fun w => I w.db) (sampleTip env config)
    (fun r w => I w.db ∧ r.2 ≤ u32Max) fun _ w => I w.db := by
  refine SyncTriple.bind (R := fun _ w => I w.db) ?_ fun m => ?_
  · refine (h.transaction fun now db m db' hw hok => h.row db m db' hw hok).bind fun m =>
      (h.transaction fun now db a db' hw hok => ?_).bind fun _ => SyncTriple.pure fun _ hw => hw
    cases hok
    exact h.required db hw
  · exact ((await_rule h.stable).halts fun _ _ hw => hw.1).bind fun height =>
      SyncTriple.pure fun w hw => ⟨hw.1, by have := height.isLt; unfold u32Max; omega⟩

/-- **An iteration keeps the invariant**, however it ends. -/
lemma synced : SyncTriple A S (fun w => I w.db) (syncOnce env config birthday)
    (fun _ w => I w.db) fun _ w => I w.db := by
  refine h.sampled.bind fun r => ?_
  refine SyncTriple.of_fact (fun w₀ => (extends_recorded env w₀).syncAt) fun hT => ?_
  refine h.revoked.bind fun _ => h.reconciledOverlap.bind fun _ => h.queued.bind fun _ => ?_
  refine SyncTriple.bind (R := fun _ w => I w.db)
    (SyncTriple.ite (fun _ => h.transaction fun now db a db' hw hok => ?_)
      fun _ => SyncTriple.pure fun _ hw => hw) fun _ => ?_
  · obtain ⟨db₁, hok, heq⟩ := map_ok hok
    cases heq
    exact h.event _ _ _ _ _ _ _ _ hw hok
  · refine SyncTriple.bind (R := fun _ w => I w.db) ?_ fun _ =>
      (h.scannedForward hT).bind fun _ => h.finished
    unfold markCatchingUp
    split
    · exact h.recorded.bind fun _ => SyncTriple.pure fun _ hw => hw
    · exact SyncTriple.pure fun _ hw => hw

lemma next {w : World} (hw : I w.db)
    (hS : ∀ s ∈ (w.next env config birthday).scans, S s) :
    I (w.next env config birthday).db := by
  have hi := (h.synced : SyncTriple (fun _ => True) S (fun w => I w.db)
    (syncOnce env config birthday) _ _) { w with answers := [], scans := [] } fun _ => hw
  unfold World.next World.iterate at *
  rcases hr : syncOnce env config birthday { w with answers := [], scans := [] } with ⟨e | t, w'⟩
  all_goals
    rw [hr] at hi hS
  · cases e with
    | killed => exact h.queue _ _ _ (h.recover _ _ (hi ⟨fun _ _ => trivial, hS⟩))
    | failed awaiting error => exact hi ⟨fun _ _ => trivial, hS⟩
    | stuck => exact hi ⟨fun _ _ => trivial, hS⟩
  · exact hi ⟨fun _ _ => trivial, hS⟩

/-- **The invariant holds before every iteration of a run.** -/
lemma reached {w : World} (hw : I w.db) {k : ℕ}
    (hS : ∀ i < k, ∀ s ∈ (w.at env config birthday (i + 1)).scans, S s) :
    I (w.at env config birthday k).db := by
  induction k with
  | zero => exact hw
  | succ k ih => exact h.next (ih fun i hi => hS i (by omega)) (hS k (by omega))

end Maintained

/-! ### Totals and issued addresses -/

section kept

variable {db db' : Db} {now : Timestamp} {tip : ℤ} {finality : ℕ} {label : String} {p : Pending}

lemma commit_kept (hk : db.TotalsKept) (h : p.commit tip finality now label db = .ok db') :
    db'.TotalsKept := by
  intro a
  rw [Pending.commit_find? h, Option.isSome_map, Pending.commit_ok h]
  exact hk a

lemma applyRequired_kept (required : Option ℕ) (hk : db.TotalsKept) :
    (applyRequiredConfirmations db required).TotalsKept := by
  unfold applyRequiredConfirmations
  split_ifs
  · exact hk
  · intro a
    simp only [Table.find?_update, Option.isSome_map]
    exact hk a

lemma queue_kept (now : Timestamp) (ids : List ℕ) (hk : db.TotalsKept) :
    (queueWebhookDeliveriesForDirtyAddresses now ids db).2.TotalsKept := by
  unfold queueWebhookDeliveriesForDirtyAddresses
  split_ifs
  · exact hk
  · exact foldl_queueOne_kept now (idSet ids) hk

lemma totalsKept_maintained (config : Config) (S : Scan → Prop) :
    Maintained config S Db.TotalsKept where
  issue _ _ _ _ _ hk h := allocateFreshAddress_kept hk h
  row db m db' hk h := by
    obtain ⟨rfl, -⟩ := ensureServiceMetadataRow_ok h
    exact hk
  required _ hk := applyRequired_kept config.requiredConfirmations hk
  ledger _ _ op _ _ _ hk _ h := by
    obtain ⟨p, label, -, -, hc⟩ := op.run_ok h
    exact commit_kept hk hc
  queue now ids _ hk := queue_kept now ids hk
  status _ _ _ _ _ _ _ _ hk h := by
    obtain ⟨_, _, -, rfl, -⟩ := recordSyncStatus_ok h
    exact hk
  event _ _ _ _ _ _ _ _ hk h := by
    obtain ⟨_, rfl⟩ := recordReorgEvent_ok h
    exact hk
  recover _ _ hk := hk

end kept

end ZcashPayment

import ZcashPayment.LedgerTotals

/-!
What the operations leave in the receipt table, row by row.

A receipt that is scanned in a range is written; an active mined row of the range that is not
scanned is revoked; every other row stays. The other operations change rows in place, and the
mempool snapshot writes mempool rows only.
-/

namespace ZcashPayment

variable {db db' : Db} {tip startHeight endHeight : ℤ} {finality threshold : ℕ}
  {now cutoff : Timestamp} {label : String} {receipts : List AttributedScannedReceipt}
  {e : AttributedScannedReceipt} {u : ReceiptUid} {r row : ReceiptRow} {p : Pending}

lemma Pending.commit_receipts (h : p.commit tip finality now label db = .ok db') :
    db'.receipts = p.receipts := by
  rw [Pending.commit_ok h]

/-! ### A range -/

lemma nodup_scannedByUid (receipts : List AttributedScannedReceipt) :
    ((scannedByUid receipts).map (·.receiptUid)).Nodup := by
  induction receipts with
  | nil => exact List.nodup_nil
  | cons r rs ih =>
    unfold scannedByUid
    split_ifs with h
    · exact ih
    · refine List.nodup_cons.mpr ⟨fun hmem => h ?_, ih⟩
      obtain ⟨r', hr', heq⟩ := List.mem_map.mp hmem
      exact List.any_eq_true.mpr ⟨r', mem_scannedByUid hr', by simpa using heq⟩

/-- Where a uid determines the receipt, no receipt is dropped. -/
lemma mem_scannedByUid_iff
    (hu : ∀ e ∈ receipts, ∀ e' ∈ receipts, e.receiptUid = e'.receiptUid → e = e') :
    e ∈ scannedByUid receipts ↔ e ∈ receipts := by
  refine ⟨mem_scannedByUid, fun h => ?_⟩
  induction receipts with
  | nil => exact h
  | cons r rs ih =>
    have ih := ih fun x hx y hy => hu x (List.mem_cons_of_mem r hx) y (List.mem_cons_of_mem r hy)
    unfold scannedByUid
    split_ifs with hany
    · rcases List.mem_cons.mp h with rfl | h
      · obtain ⟨r', hr', heq⟩ := List.any_eq_true.mp hany
        have : r' = e :=
          hu r' (List.mem_cons_of_mem e hr') e List.mem_cons_self (by simpa using heq)
        exact ih (this ▸ hr')
      · exact ih h
    · rcases List.mem_cons.mp h with rfl | h
      · exact List.mem_cons_self
      · exact List.mem_cons_of_mem r (ih h)

/-- The row a scanned receipt is written to. -/
lemma find?_reconcile (he : e ∈ scannedByUid receipts) :
    (reconcilePending receipts startHeight endHeight now db).receipts.find? e.receiptUid =
      some ((db.row e.receiptUid).elim (insertedRow e) (mergedRow e)) := by
  have h := find?_writeAll insertedRow mergedRow (fun _ _ => rfl)
    (t := revokeWhere db.receipts now (missingFrom (scannedByUid receipts) startHeight endHeight))
    (nodup_scannedByUid receipts) he
  refine h.trans ?_
  rw [find?_revokeWhere, show (insertedRow e).receiptUid = e.receiptUid from rfl]
  rcases hf : db.receipts.find? e.receiptUid with _ | old
  · rw [Db.row, hf]
    rfl
  · have hm : missingFrom (scannedByUid receipts) startHeight endHeight old = false := by
      have hany : (scannedByUid receipts).any (fun x => x.receiptUid = old.receiptUid) = true :=
        List.any_eq_true.mpr ⟨e, he, by simp [Table.key_of_find? hf]⟩
      simp [missingFrom, hany]
    rw [Db.row, hf]
    simp [hm]

/-- A row whose receipt was not scanned is revoked when it is missing. -/
lemma find?_reconcile_unscanned (hu : ∀ e ∈ scannedByUid receipts, e.receiptUid ≠ u) :
    (reconcilePending receipts startHeight endHeight now db).receipts.find? u =
      (db.row u).map fun r =>
        if missingFrom (scannedByUid receipts) startHeight endHeight r then revokedRow now r
        else r :=
  (find?_writeAll_of_notMem insertedRow mergedRow (fun _ _ => rfl) hu).trans find?_revokeWhere

lemma revokedRow_not_active : isActiveMined (revokedRow now r) = false := by
  simp [isActiveMined, revokedRow]

/-- **Active mined rows after a range was reconciled**: the written ones, and the old ones
that were not scanned and are not in the range. -/
lemma activeMined_reconcile
    (hrow : row ∈ (reconcilePending receipts startHeight endHeight now db).receipts.rows)
    (ha : isActiveMined row = true) :
    (∃ e ∈ scannedByUid receipts,
        row = (db.row e.receiptUid).elim (insertedRow e) (mergedRow e)) ∨
      row ∈ db.receipts.rows ∧ inRange startHeight endHeight row = false ∧
        ∀ e ∈ scannedByUid receipts, e.receiptUid ≠ row.receiptUid := by
  have hf := Table.find?_of_mem hrow
  by_cases hu : ∃ e ∈ scannedByUid receipts, e.receiptUid = row.receiptUid
  · obtain ⟨e, he, heq⟩ := hu
    rw [← heq, find?_reconcile he] at hf
    exact Or.inl ⟨e, he, (Option.some.inj hf).symm⟩
  · push Not at hu
    rw [find?_reconcile_unscanned hu] at hf
    obtain ⟨old, hold, heq⟩ := Option.map_eq_some_iff.mp hf
    by_cases hm : missingFrom (scannedByUid receipts) startHeight endHeight old
    · rw [if_pos hm] at heq
      rw [← heq, revokedRow_not_active] at ha
      cases ha
    · rw [if_neg hm] at heq
      subst heq
      refine Or.inr ⟨Table.mem_of_find? hold, ?_, hu⟩
      have hany : (scannedByUid receipts).any (fun x => x.receiptUid = old.receiptUid) = false := by
        simpa using hu
      simpa [missingFrom, ha, hany] using hm

/-- What is written of a mined receipt. -/
lemma activeMined_written (hk : e.receiptKind = .mined) (prior : Option ReceiptRow) :
    isActiveMined (prior.elim (insertedRow e) (mergedRow e)) = true := by
  cases prior <;> simp [isActiveMined, insertedRow, mergedRow, hk]

/-! ### Above the tip, and maturity -/

lemma find?_revoke :
    (revokePending tip now db).receipts.find? u =
      (db.row u).map fun r => if aboveTip tip r then revokedRow now r else r :=
  find?_revokeWhere

lemma find?_maturity :
    (maturityPending tip threshold db).receipts.find? u =
      (db.row u).map fun r => if immature tip threshold r then maturedRow tip threshold r else r :=
  Table.find?_update _ fun r => by split_ifs <;> rfl

lemma activeMined_revoke (hrow : row ∈ (revokePending tip now db).receipts.rows)
    (ha : isActiveMined row = true) : row ∈ db.receipts.rows ∧ row.minedHeight ≤ tip := by
  obtain ⟨old, hold, rfl⟩ := List.mem_map.mp hrow
  by_cases hm : aboveTip tip old
  · rw [if_pos hm, revokedRow_not_active] at ha
    cases ha
  · rw [if_neg hm] at ha ⊢
    refine ⟨hold, ?_⟩
    simpa [aboveTip, ha] using hm

/-- After the maturity pass a row is what it was, with the depth and eligibility at the tip
where it is active and mined. -/
lemma matured_row (hrow : row ∈ (maturityPending tip threshold db).receipts.rows) :
    ∃ old ∈ db.receipts.rows,
      row = if isActiveMined old then maturedRow tip threshold old else old := by
  obtain ⟨old, hold, rfl⟩ := List.mem_map.mp hrow
  refine ⟨old, hold, ?_⟩
  by_cases hi : immature tip threshold old
  · have ha : isActiveMined old = true := by
      simp only [immature, Bool.and_eq_true] at hi
      exact hi.1
    rw [if_pos hi, if_pos ha]
  · rw [if_neg hi]
    split_ifs with ha
    · simp only [immature, ha, Bool.true_and, Bool.or_eq_true, decide_eq_true_eq, ne_eq, not_or,
        Decidable.not_not] at hi
      rw [maturedRow, ← hi.2, ← hi.1]
    · rfl

/-! ### The mempool snapshot -/

lemma find?_mempool {txids : List String} {revokeMissing : Bool}
    (hu : ∀ e ∈ receipts, e.receiptUid ≠ u) :
    (mempoolPending cutoff txids receipts now threshold revokeMissing db).receipts.find? u =
      ((db.row u).map fun r =>
          if revokeMissing && leftMempool txids r then revokedRow now r else r).map fun r =>
        if staleFreshness threshold cutoff r then refreshedRow threshold cutoff now r else r := by
  set existing := db.receipts.rows.filter fun r => r.receiptKind = .mempool
  set new := mempoolNew threshold cutoff now existing with hnew
  have h : ∀ t : Table ReceiptRow.receiptUid,
      (receipts.foldl (upsertMempool threshold cutoff now existing) t).find? u = t.find? u :=
    fun t => find?_writeAll_of_notMem new (fun e => mempoolMerged (new e)) (fun _ _ => rfl) hu
  refine (Table.find?_update _ fun r => by split_ifs <;> rfl).trans ?_
  rw [h, find?_revokeWhere]

lemma activeMined_not_mempool (ha : isActiveMined r = true) : isActiveMempool r = false := by
  simp only [isActiveMined, Bool.and_eq_true, decide_eq_true_eq] at ha
  simp [isActiveMempool, ha.1]

/-- A mined row whose uid is not in the snapshot stays as it is. -/
lemma find?_mempool_mined {txids : List String} {revokeMissing : Bool}
    (hu : ∀ e ∈ receipts, e.receiptUid ≠ row.receiptUid) (hrow : row ∈ db.receipts.rows)
    (ha : isActiveMined row = true) :
    (mempoolPending cutoff txids receipts now threshold revokeMissing db).receipts.find?
      row.receiptUid = some row := by
  rw [find?_mempool hu, Db.row, Table.find?_of_mem hrow]
  simp [leftMempool, staleFreshness, activeMined_not_mempool ha]

/-- The snapshot brings no mined row. -/
lemma activeMined_mempool {txids : List String} {revokeMissing : Bool}
    (hrow : row ∈
      (mempoolPending cutoff txids receipts now threshold revokeMissing db).receipts.rows)
    (ha : isActiveMined row = true) :
    row ∈ db.receipts.rows ∧ ∀ e ∈ receipts, e.receiptUid ≠ row.receiptUid := by
  set existing := db.receipts.rows.filter fun r => r.receiptKind = .mempool
  set new := mempoolNew threshold cutoff now existing
  -- The freshness pass rewrites mempool rows only.
  obtain ⟨upserted, hup, rfl⟩ := List.mem_map.mp hrow
  by_cases hs : staleFreshness threshold cutoff upserted
  · have hk : upserted.receiptKind = .mempool := by
      simp only [staleFreshness, isActiveMempool, Bool.and_eq_true, decide_eq_true_eq] at hs
      exact hs.1.1
    rw [if_pos hs] at ha
    simp [isActiveMined, refreshedRow, hk] at ha
  · rw [if_neg hs] at ha ⊢
    rcases mem_writeAll new (fun e => mempoolMerged (new e)) (fun _ _ => rfl) hup with
      ⟨h, hes⟩ | ⟨e, -, h⟩
    · obtain ⟨old, hold, heq⟩ := List.mem_map.mp h
      split_ifs at heq with hl
      · rw [← heq, revokedRow_not_active] at ha
        cases ha
      · exact ⟨heq ▸ hold, hes⟩
    · have hk : upserted.receiptKind = .mempool := by
        rcases h with rfl | ⟨old, rfl⟩ <;> rfl
      simp [isActiveMined, hk] at ha

end ZcashPayment

import ZcashPayment.LedgerSpec

/-!
The stored totals along any sequence of ledger operations.

The operations decide for themselves which addresses they recompute. What makes the stored
totals right is that each of them is `Pending.Sound`: an address it leaves out has the same
view of the ledger before and after. One lemma per operation says so, and the rest follows
from what a commit writes.
-/

namespace ZcashPayment

/-- What an operation may claim about the addresses it leaves out. -/
structure Pending.Sound (owner : ReceiptUid → ℕ) (db : Db) (p : Pending) : Prop where
  owned : Owned owner p.receipts
  unseen : ∀ a, a ∉ p.affected → view p.receipts.rows a = view db.receipts.rows a

/-- Every receipt is at the address its uid belongs to. -/
def OwnedReceipts (owner : ReceiptUid → ℕ) (es : List AttributedScannedReceipt) : Prop :=
  ∀ e ∈ es, e.addressId = owner e.receiptUid

variable {owner : ReceiptUid → ℕ} {db db' : Db} {receipts : List AttributedScannedReceipt}

/-! ### The change tests -/

lemma apply_sound (ho : Owned owner db.receipts) (hr : OwnedReceipts owner receipts) :
    (applyPending receipts db).Sound owner db where
  owned := Owned.writeAll insertedRow mergedRow (fun _ _ => rfl) ho hr fun _ _ => rfl
  unseen a ha := by
    refine view_writeAll insertedRow mergedRow (fun _ _ => rfl) ho hr (fun _ _ => rfl)
      (fun _ _ => rfl) fun e he heq => absurd ?_ ha
    rw [applyPending, mem_idSet, ← heq]
    exact List.mem_map_of_mem he

lemma maturity_sound (tip : ℤ) (threshold : ℕ) (ho : Owned owner db.receipts) :
    (maturityPending tip threshold db).Sound owner db where
  owned := ho.update (fun r => by split_ifs <;> rfl) fun r => by split_ifs <;> rfl
  unseen a ha := by
    refine view_update (fun r => by split_ifs <;> rfl) fun r hr =>
      ⟨by split_ifs <;> rfl, fun heq => ?_⟩
    split_ifs with h
    · refine absurd ?_ ha
      rw [maturityPending, mem_idSet, ← heq]
      exact List.mem_map_of_mem (List.mem_filter.mpr ⟨hr, h⟩)
    · rfl

lemma owned_revokeWhere {t : Table ReceiptRow.receiptUid} (ho : Owned owner t)
    (now : Timestamp) (p : ReceiptRow → Bool) : Owned owner (revokeWhere t now p) :=
  ho.update _ fun r => by split_ifs <;> rfl

/-- Revoking rows is seen only at their addresses. -/
lemma view_revokeWhere {t : Table ReceiptRow.receiptUid} {now : Timestamp}
    {p : ReceiptRow → Bool} {a : ℕ} (h : ∀ r ∈ t.rows, r.addressId = a → p r = false) :
    view (revokeWhere t now p).rows a = view t.rows a := by
  refine view_update (fun r => by split_ifs <;> rfl) fun r hr =>
    ⟨by split_ifs <;> rfl, fun heq => ?_⟩
  rw [if_neg (by simp [h r hr heq])]

lemma find?_revokeWhere {t : Table ReceiptRow.receiptUid} {now : Timestamp}
    {p : ReceiptRow → Bool} {u : ReceiptUid} :
    (revokeWhere t now p).find? u =
      (t.find? u).map fun r => if p r then revokedRow now r else r :=
  Table.find?_update _ _

lemma revoke_sound (tip : ℤ) (now : Timestamp) (ho : Owned owner db.receipts) :
    (revokePending tip now db).Sound owner db where
  owned := owned_revokeWhere ho now _
  unseen a ha := by
    refine view_revokeWhere fun r hr heq => Bool.eq_false_iff.mpr fun h => absurd ?_ ha
    rw [revokePending, mem_idSet, ← heq]
    exact List.mem_map_of_mem (List.mem_filter.mpr ⟨hr, h⟩)

lemma mem_scannedByUid {e : AttributedScannedReceipt} :
    e ∈ scannedByUid receipts → e ∈ receipts := by
  induction receipts with
  | nil => exact id
  | cons r rs ih =>
    unfold scannedByUid
    split_ifs
    · exact fun h => List.mem_cons_of_mem r (ih h)
    · intro h
      rcases List.mem_cons.mp h with rfl | h
      · exact List.mem_cons_self
      · exact List.mem_cons_of_mem r (ih h)

/-- A receipt whose test finds no change would write the core that is there. -/
lemma core_insertedRow_of_unchanged {old : ReceiptRow} {e : AttributedScannedReceipt}
    (hs : old.receiptState = .active) (hc : changedBy old e = false) :
    core old = core (insertedRow e) := by
  simp only [changedBy, Bool.or_eq_false_iff, decide_eq_false_iff_not, not_not, ne_eq] at hc
  obtain ⟨⟨⟨⟨⟨-, hh⟩, hv⟩, -⟩, he⟩, hk⟩ := hc
  rw [core, hs, hh, hv, he, hk]
  rfl

lemma priorOf_some {existing : List ReceiptRow} {u : ReceiptUid} {old : ReceiptRow}
    (h : priorOf existing u = some old) : old ∈ existing ∧ old.receiptUid = u :=
  ⟨List.mem_of_find?_eq_some h, by simpa using List.find?_some h⟩

/-- A receipt that does not touch its own address found a row it would not change. -/
lemma unchanged_of_untouched {prior : Option ReceiptRow} {e : AttributedScannedReceipt}
    (h : e.addressId ∉ touchedBy prior e) :
    ∃ old, prior = some old ∧ core old = core (insertedRow e) := by
  unfold touchedBy at h
  rcases prior with _ | old
  · simp at h
  · simp only at h
    split_ifs at h with hc
    · simp at h
    · simp only [Bool.or_eq_true, decide_eq_true_eq, not_or, Decidable.not_not, ne_eq,
        Bool.not_eq_true] at hc
      exact ⟨old, rfl, core_insertedRow_of_unchanged hc.1 hc.2⟩

lemma reconcile_sound (startHeight endHeight : ℤ) (now : Timestamp)
    (ho : Owned owner db.receipts) (hr : OwnedReceipts owner receipts) :
    (reconcilePending receipts startHeight endHeight now db).Sound owner db where
  owned := Owned.writeAll insertedRow mergedRow (fun _ _ => rfl) (owned_revokeWhere ho now _)
    (fun e he => hr e (mem_scannedByUid he)) fun _ _ => rfl
  unseen a ha := by
    simp only [reconcilePending, mem_idSet, List.mem_append, List.mem_map, List.mem_filter,
      List.mem_flatMap, not_or, not_exists, not_and, and_imp] at ha
    obtain ⟨hrev, htouched⟩ := ha
    have hkeep : ∀ r ∈ db.receipts.rows, r.addressId = a →
        missingFrom (scannedByUid receipts) startHeight endHeight r = false := by
      intro r hr heq
      exact Bool.eq_false_iff.mpr fun h => hrev r hr h heq
    refine (view_writeAll insertedRow mergedRow (fun _ _ => rfl)
      (owned_revokeWhere ho now _) (fun e he => hr e (mem_scannedByUid he)) (fun _ _ => rfl)
      (fun _ _ => rfl) fun e he heq => ?_).trans (view_revokeWhere hkeep)
    obtain ⟨old, hp, hcore⟩ := unchanged_of_untouched ((show e.addressId = a from heq) ▸
      htouched e he)
    obtain ⟨hmem, huid⟩ := priorOf_some hp
    have hold := (List.mem_filter.mp hmem).1
    have hown : old.addressId = a := by
      rw [ho old hold, huid, ← hr e (mem_scannedByUid he)]
      exact heq
    refine ⟨old, ?_, hcore⟩
    rw [find?_revokeWhere, show (insertedRow e).receiptUid = old.receiptUid from huid.symm,
      Table.find?_of_mem hold]
    simp [hkeep old hold hown]

/-- The row a receipt of the snapshot writes, given the mempool rows that were there before. -/
def mempoolNew (threshold : ℕ) (cutoff now : Timestamp) (existing : List ReceiptRow)
    (e : AttributedScannedReceipt) : ReceiptRow :=
  mempoolUpsertRow threshold cutoff now (priorOf existing e.receiptUid) e

lemma mempool_unchanged_of_untouched {threshold : ℕ} {cutoff : Timestamp} (now : Timestamp)
    {prior : Option ReceiptRow} {e : AttributedScannedReceipt}
    (h : e.addressId ∉ mempoolTouchedBy threshold cutoff prior e) :
    ∃ old, prior = some old ∧ (old.receiptKind = .mempool →
      core old = core (mempoolUpsertRow threshold cutoff now prior e)) := by
  unfold mempoolTouchedBy at h
  rcases prior with _ | old
  · simp at h
  · simp only at h
    split_ifs at h with hc
    · simp at h
    · simp only [Bool.or_eq_true, decide_eq_true_eq, not_or, Decidable.not_not, ne_eq] at hc
      obtain ⟨⟨⟨⟨⟨hs, -⟩, -⟩, hv⟩, -⟩, he'⟩ := hc
      refine ⟨old, rfl, fun hk => ?_⟩
      simp [core, mempoolUpsertRow, mempoolRow, insertedRow, hs, hv, he', hk]

lemma mempool_sound (cutoff : Timestamp) (txids : List String) (now : Timestamp)
    (threshold : ℕ) (revokeMissing : Bool) (ho : Owned owner db.receipts)
    (hr : OwnedReceipts owner receipts) :
    (mempoolPending cutoff txids receipts now threshold revokeMissing db).Sound owner db := by
  set existing := db.receipts.rows.filter fun r => r.receiptKind = .mempool with hex
  set left := fun r => revokeMissing && leftMempool txids r with hleft
  set new := mempoolNew threshold cutoff now existing with hnew
  set stale := staleFreshness threshold cutoff with hstale
  set upserted := writeAll new (fun e => mempoolMerged (new e)) (fun _ _ => rfl) receipts
    (revokeWhere db.receipts now left) with hup
  have hup' : upserted = receipts.foldl (upsertMempool threshold cutoff now existing)
      (revokeWhere db.receipts now left) := rfl
  have hrows : (mempoolPending cutoff txids receipts now threshold revokeMissing db).receipts =
      upserted.update (fun r => if stale r then refreshedRow threshold cutoff now r else r)
        (fun r => by split_ifs <;> rfl) := rfl
  have hu : Owned owner upserted :=
    Owned.writeAll new (fun e => mempoolMerged (new e)) (fun _ _ => rfl)
      (owned_revokeWhere ho now _) hr fun _ _ => rfl
  refine ⟨hrows ▸ hu.update _ fun r => by split_ifs <;> rfl, fun a ha => ?_⟩
  simp only [mempoolPending, ← hex, ← hleft, ← hup', ← hstale, mem_idSet, List.mem_append,
    List.mem_map, List.mem_filter, List.mem_flatMap, not_or, not_exists, not_and, and_imp] at ha
  obtain ⟨⟨hrev, htouched⟩, hexpired⟩ := ha
  have hkeep : ∀ r ∈ db.receipts.rows, r.addressId = a → left r = false := by
    intro r hr heq
    exact Bool.eq_false_iff.mpr fun h => hrev r hr h heq
  have hwritten : view upserted.rows a = view db.receipts.rows a := by
    refine (view_writeAll new (fun e => mempoolMerged (new e)) (fun _ _ => rfl)
      (owned_revokeWhere ho now _) hr (fun _ _ => rfl) (fun _ _ => rfl)
      fun e he heq => ?_).trans (view_revokeWhere hkeep)
    obtain ⟨old, hp, hcore⟩ := mempool_unchanged_of_untouched now
      ((show e.addressId = a from heq) ▸ htouched e he)
    obtain ⟨hmem, huid⟩ := priorOf_some hp
    obtain ⟨hold, hkind⟩ := List.mem_filter.mp hmem
    have hown : old.addressId = a := by
      rw [ho old hold, huid, ← hr e he]
      exact heq
    refine ⟨old, ?_, hcore (by simpa using hkind)⟩
    rw [find?_revokeWhere, show (new e).receiptUid = old.receiptUid from huid.symm,
      Table.find?_of_mem hold]
    simp [hkeep old hold hown]
  -- The last write only touches rows whose address is affected for it.
  rw [hrows, ← hwritten]
  refine view_update (fun r => by split_ifs <;> rfl) fun r hr =>
    ⟨by split_ifs <;> rfl, fun heq => ?_⟩
  rw [if_neg fun h => hexpired r hr h heq]

end ZcashPayment

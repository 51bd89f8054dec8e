import ZcashPayment.LedgerRuns
import ZcashPayment.Service

/-!
What the stored totals are after any sequence of ledger operations.

An operation is called with any arguments and may fail; a failure leaves the database alone.
The invariant is stated on one row of totals at a time, against the receipt rows: the sums,
and the array of sums per depth. A sound commit keeps it at the addresses it leaves out,
where the view has not moved, and establishes it at the others.
-/

namespace ZcashPayment

/-- What a delivery reports of an address. -/
def AddressTotals.content (t : AddressTotals) : ℤ × Option (List ℤ) :=
  (t.currentTotalZat, t.receivedByConfirmations)

/-! ### Operations and their runs -/

inductive LedgerOp where
  | applyAttributedReceipts (receipts : List AttributedScannedReceipt) (tip : ℤ)
  | advanceReceiptMaturity (tip : ℤ) (webhookReportConfirmations : ℕ)
  | reconcileAttributedReceiptsInRange (receipts : List AttributedScannedReceipt)
      (startHeight endHeight tip : ℤ)
  | revokeMinedReceiptsAboveTip (tip : ℤ)
  | reconcileMempoolSnapshot (currentMempoolTxids : List String)
      (receipts : List AttributedScannedReceipt) (tip : ℤ) (webhookReportConfirmations : ℕ)
      (revokeMissing : Bool)

namespace LedgerOp

/-- The receipts an operation is handed. -/
def receipts : LedgerOp → List AttributedScannedReceipt
  | applyAttributedReceipts receipts _ => receipts
  | advanceReceiptMaturity _ _ => []
  | reconcileAttributedReceiptsInRange receipts _ _ _ => receipts
  | revokeMinedReceiptsAboveTip _ => []
  | reconcileMempoolSnapshot _ receipts _ _ _ => receipts

/-- The tip an operation is told. -/
def tip : LedgerOp → ℤ
  | applyAttributedReceipts _ tip => tip
  | advanceReceiptMaturity tip _ => tip
  | reconcileAttributedReceiptsInRange _ _ _ tip => tip
  | revokeMinedReceiptsAboveTip tip => tip
  | reconcileMempoolSnapshot _ _ tip _ _ => tip

/-- Call an operation at the time `now`; the ids are those it returns as affected. -/
def run (cutoffOf : Timestamp → Except AppError Timestamp) (finality : ℕ) (now : Timestamp)
    (op : LedgerOp) (db : Db) : Except AppError (List ℕ × Db) :=
  match op with
  | applyAttributedReceipts receipts tip =>
    ZcashPayment.applyAttributedReceipts receipts tip finality now db
  | advanceReceiptMaturity tip threshold =>
    ZcashPayment.advanceReceiptMaturity tip threshold finality now db
  | reconcileAttributedReceiptsInRange receipts startHeight endHeight tip =>
    (ZcashPayment.reconcileAttributedReceiptsInRange receipts startHeight endHeight tip finality
      now db).map fun (out, db) => (out.affectedAddressIds, db)
  | revokeMinedReceiptsAboveTip tip =>
    (ZcashPayment.revokeMinedReceiptsAboveTip tip finality now db).map
      fun (out, db) => (out.affectedAddressIds, db)
  | reconcileMempoolSnapshot txids receipts tip threshold revokeMissing =>
    (ZcashPayment.reconcileMempoolSnapshot cutoffOf txids receipts now tip finality threshold
      revokeMissing db).map fun (out, db) => (out.affectedAddressIds, db)

end LedgerOp

variable {cutoffOf : Timestamp → Except AppError Timestamp} {finality : ℕ}
  {owner : ReceiptUid → ℕ} {db db' : Db} {ids : List ℕ} {now : Timestamp} {a : ℕ}

/-- **Inversion**: an operation that succeeds has committed something, which is sound when the
receipts it is handed are at their addresses. -/
lemma LedgerOp.run_ok {op : LedgerOp} (h : op.run cutoffOf finality now db = .ok (ids, db')) :
    ∃ (p : Pending) (label : String),
      (∀ owner, Owned owner db.receipts → OwnedReceipts owner op.receipts → p.Sound owner db) ∧
      ids = p.affected ∧ p.commit op.tip finality now label db = .ok db' := by
  cases op with
  | applyAttributedReceipts receipts tip =>
    obtain ⟨hids, hc⟩ := apply_ok h
    exact ⟨_, _, fun _ => apply_sound, hids, hc⟩
  | advanceReceiptMaturity tip threshold =>
    obtain ⟨hids, hc⟩ := maturity_ok h
    exact ⟨_, _, fun _ ho _ => maturity_sound tip threshold ho, hids, hc⟩
  | reconcileAttributedReceiptsInRange receipts startHeight endHeight tip =>
    obtain ⟨⟨out, _⟩, h, heq⟩ := map_ok h
    cases heq
    obtain ⟨hids, hc⟩ := reconcile_ok h
    exact ⟨_, _, fun _ => reconcile_sound startHeight endHeight now, hids, hc⟩
  | revokeMinedReceiptsAboveTip tip =>
    obtain ⟨⟨out, _⟩, h, heq⟩ := map_ok h
    cases heq
    obtain ⟨hids, hc⟩ := revoke_ok h
    exact ⟨_, _, fun _ ho _ => revoke_sound tip now ho, hids, hc⟩
  | reconcileMempoolSnapshot txids receipts tip threshold revokeMissing =>
    obtain ⟨⟨out, _⟩, h, heq⟩ := map_ok h
    cases heq
    obtain ⟨cutoff, -, hids, hc⟩ := mempool_ok h
    exact ⟨_, _, fun _ => mempool_sound cutoff txids now threshold revokeMissing, hids, hc⟩

/-! ### The invariant -/

/-- The sums of one row of totals, against the receipt rows. -/
structure TotalsRight (finality : ℕ) (rows : List ReceiptRow) (t : AddressTotals) : Prop where
  current : t.currentTotalZat = eligibleTotalZat rows t.addressId
  finalized : t.finalizedTotalZat = querySumWithCutoff rows t.addressId
    (finalizedCutoffHeight t.lastComputedTipHeight finality)
  recent : t.recentTotalZat + t.finalizedTotalZat = t.currentTotalZat

/-- The array of one row of totals. An address without receipts keeps none until it gets its
first one. -/
def ArrayRight (required : Option ℕ) (rows : List ReceiptRow) (t : AddressTotals) : Prop :=
  (required = none ∨ ∃ r ∈ rows, r.addressId = t.addressId) →
    t.receivedByConfirmations =
      receivedByConfirmationsZat rows t.addressId t.lastComputedTipHeight required

/-- What one operation does to one row of totals, given the ids it returned. -/
structure TotalsStep (ids : List ℕ) (t t' : AddressTotals) : Prop where
  version : t'.stateVersion = t.stateVersion + if t'.content = t.content then 0 else 1
  dirty : t'.content ≠ t.content → t'.dirtyState = .dirty
  kept : t'.content = t.content → t'.dirtyState = t.dirtyState
  affected : t'.content ≠ t.content → t.addressId ∈ ids

lemma TotalsRight.nonneg {rows : List ReceiptRow} {t : AddressTotals}
    (h : TotalsRight finality rows t) : 0 ≤ t.finalizedTotalZat ∧ 0 ≤ t.recentTotalZat := by
  have hle : t.finalizedTotalZat ≤ t.currentTotalZat := by
    rw [h.finalized, h.current]
    refine sumZat_le rows fun r _ hr => ?_
    simp only [ZcashPayment.finalized, Bool.and_eq_true] at hr
    exact hr.1
  have h0 : 0 ≤ t.finalizedTotalZat := h.finalized ▸ sumZat_nonneg _ _
  have := h.recent
  omega

lemma view_eq_nil_iff {rows : List ReceiptRow} :
    view rows a = [] ↔ ¬∃ r ∈ rows, r.addressId = a := by
  simp [view, List.filter_eq_nil_iff]

lemma TotalsRight.congr {rows rows' : List ReceiptRow} {t : AddressTotals}
    (h : TotalsRight finality rows t) (hv : view rows' t.addressId = view rows t.addressId) :
    TotalsRight finality rows' t where
  current := by rw [eligibleTotalZat_congr hv, h.current]
  finalized := by rw [querySumWithCutoff_congr hv, h.finalized]
  recent := h.recent

lemma ArrayRight.congr {required : Option ℕ} {rows rows' : List ReceiptRow} {t : AddressTotals}
    (h : ArrayRight required rows t) (hv : view rows' t.addressId = view rows t.addressId) :
    ArrayRight required rows' t := by
  intro hr
  rw [receivedByConfirmationsZat_congr hv]
  refine h (hr.imp_right fun hr => ?_)
  by_contra hn
  exact view_eq_nil_iff.mp (hv.trans (view_eq_nil_iff.mpr hn)) hr

/-! ### One operation -/

section commit

variable {p : Pending} {tip : ℤ} {label : String} {t t' : AddressTotals}

lemma recomputed_right (tip : ℤ) (now : Timestamp) (label : String) (since : ℕ → Option ℤ)
    (t : AddressTotals) :
    TotalsRight finality db.receipts.rows (recomputed db tip finality now label since t) where
  current := rfl
  finalized := rfl
  recent := by simp [recomputed]

lemma recomputed_step (tip : ℤ) (finality : ℕ) (now : Timestamp) (label : String)
    (since : ℕ → Option ℤ) (h : t.addressId ∈ ids) :
    TotalsStep ids t (recomputed db tip finality now label since t) := by
  have hiff : (recomputed db tip finality now label since t).content ≠ t.content ↔
      (t.currentTotalZat ≠ eligibleTotalZat db.receipts.rows t.addressId ∨
        t.receivedByConfirmations ≠ receivedByConfirmationsZat db.receipts.rows t.addressId tip
          db.storedRequiredConfirmations) := by
    simp only [AddressTotals.content, recomputed, ne_eq, Prod.mk.injEq, not_and_or]
    exact or_congr (not_congr eq_comm) (not_congr eq_comm)
  refine ⟨?_, fun hne => ?_, fun heq => ?_, fun _ => h⟩
  · by_cases hc : (recomputed db tip finality now label since t).content = t.content
    · rw [if_pos hc]
      exact if_neg fun h => hiff.mpr h hc
    · rw [if_neg hc]
      exact if_pos (hiff.mp hc)
  · exact if_pos (hiff.mp hne)
  · exact if_neg fun h => hiff.mpr h heq

lemma Pending.retotaled_step (p : Pending) (tip : ℤ) (finality : ℕ) (now : Timestamp)
    (label : String) (db : Db) (t : AddressTotals) :
    TotalsStep p.affected t (p.retotaled tip finality now label db t) := by
  by_cases ha : t.addressId ∈ p.affected
  · rw [Pending.retotaled, if_pos ha]
    exact recomputed_step tip finality now label _ ha
  · rw [Pending.retotaled_of_notMem ha]
    exact ⟨by simp, fun h => absurd rfl h, fun _ => rfl, fun h => absurd rfl h⟩

/-- **What a sound commit does to one row of totals.** -/
lemma commit_totals (hp : p.Sound owner db) (h : p.commit tip finality now label db = .ok db')
    (ht : db.addressTotals.find? a = some t) (hr : TotalsRight finality db.receipts.rows t) :
    ∃ t', db'.addressTotals.find? a = some t' ∧ TotalsRight finality db'.receipts.rows t' ∧
      TotalsStep p.affected t t' := by
  refine ⟨_, by rw [Pending.commit_find? h, ht]; rfl, ?_,
    p.retotaled_step tip finality now label db t⟩
  rw [Pending.commit_ok h]
  by_cases ha : t.addressId ∈ p.affected
  · rw [Pending.retotaled, if_pos ha]
    exact recomputed_right tip now label p.since t
  · rw [Pending.retotaled_of_notMem ha]
    exact hr.congr (hp.unseen _ ha)

lemma commit_array (hp : p.Sound owner db) (h : p.commit tip finality now label db = .ok db')
    (hr : ∀ t ∈ db.addressTotals.rows,
      ArrayRight db.storedRequiredConfirmations db.receipts.rows t) :
    ∀ t ∈ db'.addressTotals.rows,
      ArrayRight db'.storedRequiredConfirmations db'.receipts.rows t := by
  rw [Pending.commit_ok h]
  intro t ht
  obtain ⟨t₀, ht₀, rfl⟩ := List.mem_map.mp ht
  by_cases ha : t₀.addressId ∈ p.affected
  · rw [Pending.retotaled, if_pos ha]
    exact fun _ => rfl
  · rw [Pending.retotaled_of_notMem ha]
    exact (hr t₀ ht₀).congr (hp.unseen _ ha)

end commit

/-! ### Runs -/

/-- A failed operation is rolled back. -/
def LedgerOp.step (cutoffOf : Timestamp → Except AppError Timestamp) (finality : ℕ) (db : Db)
    (call : Timestamp × LedgerOp) : Db :=
  match call.2.run cutoffOf finality call.1 db with
  | .ok (_, db') => db'
  | .error _ => db

def runLedger (cutoffOf : Timestamp → Except AppError Timestamp) (finality : ℕ)
    (calls : List (Timestamp × LedgerOp)) (db : Db) : Db :=
  calls.foldl (LedgerOp.step cutoffOf finality) db

/-- The database at the start: its metadata row is written and addresses are issued. -/
def startDb (config : Config) (createdAt : Timestamp) (requests : List NewAddress) : Db :=
  issueAll createdAt requests
    (match ensureServiceMetadata config Db.fresh with
    | .ok (_, db) => db
    | .error _ => Db.fresh)

/-- What every operation keeps. -/
structure LedgerInv (owner : ReceiptUid → ℕ) (finality : ℕ) (db : Db) : Prop where
  owned : Owned owner db.receipts
  kept : db.TotalsKept
  sums : ∀ a, activeTotalZat db.receipts.rows a ≤ i64Max
  right : ∀ t ∈ db.addressTotals.rows, TotalsRight finality db.receipts.rows t
  array : ∀ t ∈ db.addressTotals.rows,
    ArrayRight db.storedRequiredConfirmations db.receipts.rows t

lemma zero_right (finality a : ℕ) (createdAt : Timestamp) {rows : List ReceiptRow}
    (h : rows = []) :
    TotalsRight finality rows { addressId := a, lastChangedAt := createdAt } := by
  subst h
  exact ⟨rfl, rfl, rfl⟩

/-- Issuing an address keeps the invariant of a ledger without receipts. -/
lemma LedgerInv.allocate {new : NewAddress} {createdAt : Timestamp}
    (hi : LedgerInv owner finality db) (h0 : db.receipts.rows = [])
    (h : allocateFreshAddress new createdAt db = .ok (a, db')) :
    LedgerInv owner finality db' ∧ db'.receipts.rows = [] := by
  have hk := allocateFreshAddress_kept hi.kept h
  obtain ⟨_, _, rfl⟩ := allocateFreshAddress_ok h
  refine ⟨⟨hi.owned, hk, hi.sums, fun t ht => ?_, fun t ht => ?_⟩, h0⟩
  · rcases List.mem_append.mp ht with ht | ht
    · exact hi.right t ht
    · rw [List.mem_singleton.mp ht]
      exact zero_right finality a createdAt h0
  · rcases List.mem_append.mp ht with ht | ht
    · exact hi.array t ht
    · rw [List.mem_singleton.mp ht]
      rintro (hn | ⟨r, hr, -⟩)
      · exact hn ▸ rfl
      · rw [h0] at hr
        simp at hr

lemma startDb_inv (owner : ReceiptUid → ℕ) (config : Config) (finality : ℕ)
    (createdAt : Timestamp) (requests : List NewAddress) :
    LedgerInv owner finality (startDb config createdAt requests) ∧
      (startDb config createdAt requests).receipts.rows = [] := by
  refine issueAll_induction (fun db => LedgerInv owner finality db ∧ db.receipts.rows = []) ?_
    (fun new db a db' hi h => hi.1.allocate hi.2 h) requests
  simp only [ensureServiceMetadata, ensureServiceMetadataRow, Db.fresh, bind, Except.bind,
    pure, Except.pure]
  unfold applyRequiredConfirmations
  split_ifs
  all_goals
    have hsums : ∀ a, activeTotalZat [] a ≤ i64Max := fun a => Int.natCast_nonneg i64Max
    exact ⟨⟨by simp [Owned], fun _ => rfl, hsums, by simp, by simp⟩, rfl⟩

/-- **A sound commit keeps the invariant.** -/
lemma LedgerInv.commit {p : Pending} {tip : ℤ} {label : String} (hi : LedgerInv owner finality db)
    (hp : p.Sound owner db) (hc : p.commit tip finality now label db = .ok db') :
    LedgerInv owner finality db' := by
  have heq := Pending.commit_ok hc
  refine ⟨?_, fun a => ?_, fun a => ?_, fun t' ht' => ?_, commit_array hp hc hi.array⟩
  · rw [heq]
    exact hp.owned
  · rw [Pending.commit_find? hc, Option.isSome_map, heq]
    exact hi.kept a
  · rw [heq]
    by_cases ha : a ∈ p.affected
    · exact Pending.commit_sum hc ha
    · exact (activeTotalZat_congr (hp.unseen a ha)).trans_le (hi.sums a)
  · rw [heq] at ht'
    obtain ⟨t, ht, rfl⟩ := List.mem_map.mp ht'
    have hf := Table.find?_of_mem ht
    obtain ⟨t', hf', hright, -⟩ := commit_totals hp hc hf (hi.right t ht)
    rw [Pending.commit_find? hc, hf] at hf'
    cases hf'
    exact hright

lemma LedgerInv.run {op : LedgerOp} (hi : LedgerInv owner finality db)
    (hr : OwnedReceipts owner op.receipts) (h : op.run cutoffOf finality now db = .ok (ids, db')) :
    LedgerInv owner finality db' := by
  obtain ⟨p, label, hs, -, hc⟩ := op.run_ok h
  exact hi.commit (hs owner hi.owned hr) hc

/-- **Invariant along every run**: whatever the operations are called with. -/
lemma LedgerInv.runLedger (hi : LedgerInv owner finality db)
    (cutoffOf : Timestamp → Except AppError Timestamp)
    {calls : List (Timestamp × LedgerOp)} (hr : ∀ c ∈ calls, OwnedReceipts owner c.2.receipts) :
    LedgerInv owner finality (runLedger cutoffOf finality calls db) := by
  induction calls generalizing db with
  | nil => exact hi
  | cons c calls ih =>
    refine ih ?_ fun c' hc' => hr c' (List.mem_cons_of_mem c hc')
    unfold LedgerOp.step
    rcases h : c.2.run cutoffOf finality c.1 db with _ | ⟨ids, db'⟩
    · exact hi
    · exact hi.run (hr c (by simp)) h

/-- **Totals invariant.** After any run of the five operations with any arguments, one more
operation that succeeds leaves every issued address with the right sums, moves its version by
one exactly when its content changes, marks a change dirty and returns the addresses it
changed. -/
theorem totals_right_after_every_ledger_op
    (cutoffOf : Timestamp → Except AppError Timestamp) (config : Config) (finality : ℕ)
    (createdAt now : Timestamp) (requests : List NewAddress) (owner : ReceiptUid → ℕ)
    (calls : List (Timestamp × LedgerOp)) (op : LedgerOp) (ids : List ℕ) (db' : Db)
    (hcalls : ∀ c ∈ calls, OwnedReceipts owner c.2.receipts)
    (hop : OwnedReceipts owner op.receipts)
    (hrun : op.run cutoffOf finality now
      (runLedger cutoffOf finality calls (startDb config createdAt requests)) = .ok (ids, db')) :
    ∀ a, db'.issued a → ∃ t t',
      (runLedger cutoffOf finality calls (startDb config createdAt requests)).addressTotals.find? a
        = some t ∧
      db'.addressTotals.find? a = some t' ∧
      t'.currentTotalZat = eligibleTotalZat db'.receipts.rows a ∧
      t'.finalizedTotalZat = querySumWithCutoff db'.receipts.rows a
        (finalizedCutoffHeight t'.lastComputedTipHeight finality) ∧
      t'.recentTotalZat + t'.finalizedTotalZat = t'.currentTotalZat ∧
      0 ≤ t'.recentTotalZat ∧ 0 ≤ t'.finalizedTotalZat ∧
      t'.stateVersion = t.stateVersion + (if t'.content = t.content then 0 else 1) ∧
      (t'.content ≠ t.content → t'.dirtyState = .dirty) ∧
      (t'.content ≠ t.content → a ∈ ids) := by
  intro a ha
  have hi := (startDb_inv owner config finality createdAt requests).1.runLedger cutoffOf hcalls
  obtain ⟨p, label, hs, rfl, hc⟩ := op.run_ok hrun
  have hp := hs owner hi.owned hop
  have hk : (runLedger cutoffOf finality calls (startDb config createdAt requests)).issued a := by
    rw [Pending.commit_ok hc] at ha
    exact ha
  obtain ⟨t, ht⟩ := Option.isSome_iff_exists.mp ((hi.kept a).trans hk)
  obtain ⟨t', ht', hright, hstep⟩ := commit_totals hp hc ht (hi.right t (Table.mem_of_find? ht))
  have ha' : t'.addressId = a := Table.key_of_find? ht'
  obtain ⟨h0, h1⟩ := hright.nonneg
  refine ⟨t, t', ht, ht', ha' ▸ hright.current, ha' ▸ hright.finalized, hright.recent, h1, h0,
    hstep.version, hstep.dirty, fun h => ?_⟩
  exact Table.key_of_find? ht ▸ hstep.affected h

/-- A mined receipt of transaction `txid` paying `value` to an address. -/
def minedReceipt (addressId : ℕ) (txid : String) (value : ℕ) (height depth : ℤ)
    (eligible : Bool) : AttributedScannedReceipt where
  addressId
  txidHex := txid
  pool := .orchard
  receiptUid := ⟨txid, .orchard, 0⟩
  valueZat := value
  minedHeight := height
  confirmationDepth := depth
  eligibleForWebhook := eligible
  receiptKind := .mined
  firstObservedAt := "2026-01-01T00:00:00Z"
  lastObservedAt := "2026-01-01T00:00:00Z"

def testConfig : Config where
  catchUpThresholdBlocks := 10
  catchUpBatchSize := 100
  webhookReportConfirmations := 0
  finalityConfirmations := 2
  requiredConfirmations := some 2

/-- One address, with one receiver. -/
def testAddress : NewAddress := ⟨"u1", [(.orchard, [1])]⟩

/-- A receipt is applied and then lost to a reorg; the theorem gives the totals after that. -/
theorem totals_right_after_a_revocation :
    ∃ ids db', (LedgerOp.revokeMinedReceiptsAboveTip 7).run .ok 2 "t2"
        (runLedger .ok 2 [("t1", .applyAttributedReceipts [minedReceipt 1 "aa" 5 8 3 true] 10)]
          (startDb testConfig "t0" [testAddress])) = .ok (ids, db') ∧
      db'.issued 1 ∧
      ∃ t', db'.addressTotals.find? 1 = some t' ∧
        t'.currentTotalZat = eligibleTotalZat db'.receipts.rows 1 ∧ t'.stateVersion = 2 := by
  have hrun : ((LedgerOp.revokeMinedReceiptsAboveTip 7).run .ok 2 "t2"
      (runLedger .ok 2 [("t1", .applyAttributedReceipts [minedReceipt 1 "aa" 5 8 3 true] 10)]
        (startDb testConfig "t0" [testAddress]))).toOption.all
      (fun r => r.2.issued 1 && (r.2.addressTotals.find? 1).all (·.stateVersion = 2)) = true := by
    decide
  have hok : ((LedgerOp.revokeMinedReceiptsAboveTip 7).run .ok 2 "t2"
      (runLedger .ok 2 [("t1", .applyAttributedReceipts [minedReceipt 1 "aa" 5 8 3 true] 10)]
        (startDb testConfig "t0" [testAddress]))).toOption.isSome = true := by decide
  rcases h : (LedgerOp.revokeMinedReceiptsAboveTip 7).run .ok 2 "t2"
      (runLedger .ok 2 [("t1", .applyAttributedReceipts [minedReceipt 1 "aa" 5 8 3 true] 10)]
        (startDb testConfig "t0" [testAddress])) with e | ⟨ids, db'⟩
  · rw [h] at hok
    cases hok
  · rw [h] at hrun
    simp only [Except.toOption, Option.all_some, Bool.and_eq_true] at hrun
    obtain ⟨t, t', -, ht', hcur, -⟩ := totals_right_after_every_ledger_op .ok testConfig 2 "t0" "t2"
      [testAddress] (fun _ => 1) _ _ ids db'
      (by simp [OwnedReceipts, LedgerOp.receipts, minedReceipt]) (by simp [OwnedReceipts,
        LedgerOp.receipts]) h 1 hrun.1
    refine ⟨ids, db', rfl, hrun.1, t', ht', hcur, ?_⟩
    simpa [ht'] using hrun.2

end ZcashPayment

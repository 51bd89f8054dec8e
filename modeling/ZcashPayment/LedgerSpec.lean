import ZcashPayment.Ledger

/-!
What the five operations do, one row and one address at a time.

An operation that succeeds is always the commit of its `Pending`, also where the code
returns early because nothing was affected. A commit replaces the receipt rows and rewrites
the totals of the affected addresses, nothing else. The rest of the module is about the
addresses that are left out: an operation leaves their view of the ledger as it was, so that
their stored totals stay right.
-/

namespace ZcashPayment

/-! ### Committing -/

/-- A row of totals after a commit. -/
def Pending.retotaled (p : Pending) (tip : ℤ) (finality : ℕ) (now : Timestamp) (label : String)
    (db : Db) (t : AddressTotals) : AddressTotals :=
  if t.addressId ∈ p.affected then
    recomputed { db with receipts := p.receipts } tip finality now label p.since t
  else t

variable {p : Pending} {tip : ℤ} {finality : ℕ} {now : Timestamp} {label : String} {db db' : Db}

lemma Pending.retotaled_addressId (t : AddressTotals) :
    (p.retotaled tip finality now label db t).addressId = t.addressId := by
  unfold Pending.retotaled
  split_ifs <;> rfl

lemma Pending.retotaled_of_notMem {t : AddressTotals} (h : t.addressId ∉ p.affected) :
    p.retotaled tip finality now label db t = t :=
  if_neg h

/-- **What a commit writes**: the receipts it was handed and the totals recomputed on them. -/
lemma Pending.commit_ok (h : p.commit tip finality now label db = .ok db') :
    db' = { db with
      receipts := p.receipts
      addressTotals := db.addressTotals.update (p.retotaled tip finality now label db)
        Pending.retotaled_addressId } := by
  unfold Pending.commit recomputeAddressTotals at h
  split at h
  · cases h
  · exact (Except.ok.inj h).symm

lemma Pending.commit_find? {a : ℕ} (h : p.commit tip finality now label db = .ok db') :
    db'.addressTotals.find? a =
      (db.addressTotals.find? a).map (p.retotaled tip finality now label db) := by
  rw [Pending.commit_ok h]
  exact Table.find?_update _ Pending.retotaled_addressId

lemma recomputeError_eq_none {a : ℕ} : recomputeError db a = none ↔
    (db.addressTotals.find? a).isSome = true ∧ activeTotalZat db.receipts.rows a ≤ i64Max := by
  unfold recomputeError
  rcases db.addressTotals.find? a with _ | t
  · simp
  · by_cases h : activeTotalZat db.receipts.rows a > i64Max
    · simp [h]
    · simp [h, not_lt.mp h]

/-- **When a commit succeeds**: the addresses it affects have totals, and the values of their active
rows add up to an `i64`. -/
lemma Pending.commit_succeeds_iff : (∃ db', p.commit tip finality now label db = .ok db') ↔
    ∀ a ∈ p.affected, (db.addressTotals.find? a).isSome = true ∧
      activeTotalZat p.receipts.rows a ≤ i64Max := by
  have hnone : p.affected.findSome? (recomputeError { db with receipts := p.receipts }) = none ↔
      ∀ a ∈ p.affected, (db.addressTotals.find? a).isSome = true ∧
        activeTotalZat p.receipts.rows a ≤ i64Max :=
    List.findSome?_eq_none_iff.trans (forall₂_congr fun _ _ => recomputeError_eq_none)
  rw [← hnone]
  unfold Pending.commit recomputeAddressTotals
  split
  · next error h => simp [h]
  · next h => simp [h]

lemma Pending.commit_issued {a : ℕ} (h : p.commit tip finality now label db = .ok db')
    (ha : a ∈ p.affected) : (db.addressTotals.find? a).isSome = true :=
  (Pending.commit_succeeds_iff.mp ⟨db', h⟩ a ha).1

lemma Pending.commit_sum {a : ℕ} (h : p.commit tip finality now label db = .ok db')
    (ha : a ∈ p.affected) : activeTotalZat p.receipts.rows a ≤ i64Max :=
  (Pending.commit_succeeds_iff.mp ⟨db', h⟩ a ha).2

/-- A commit that has nothing to write succeeds and writes nothing. -/
lemma Pending.commit_unaffected (ha : p.affected = []) (hr : p.receipts = db.receipts) :
    p.commit tip finality now label db = .ok db := by
  unfold Pending.commit recomputeAddressTotals
  rw [ha, hr]
  simp [Table.update]

lemma idSet_eq_nil {ids : List ℕ} : idSet ids = [] ↔ ids = [] := by
  simp [List.eq_nil_iff_forall_not_mem]

variable {receipts : List AttributedScannedReceipt} {startHeight endHeight : ℤ}
  {ids : List ℕ} {out : ReceiptRangeReconciliation} {threshold : ℕ}

lemma apply_ok
    (h : applyAttributedReceipts receipts tip finality now db = .ok (ids, db')) :
    ids = (applyPending receipts db).affected ∧
      (applyPending receipts db).commit tip finality now "receipt_observed" db = .ok db' := by
  unfold applyAttributedReceipts at h
  split_ifs at h with h0 h1
  · rw [List.isEmpty_iff.mp h0]
    cases h
    exact ⟨rfl, Pending.commit_unaffected rfl rfl⟩
  · obtain ⟨_, hc, h⟩ := bind_ok h
    cases h
    exact ⟨rfl, hc⟩

lemma maturity_ok (h : advanceReceiptMaturity tip threshold finality now db = .ok (ids, db')) :
    ids = (maturityPending tip threshold db).affected ∧
      (maturityPending tip threshold db).commit tip finality now "receipt_matured" db =
        .ok db' := by
  simp only [advanceReceiptMaturity] at h
  split_ifs at h with h0
  · have ha : (maturityPending tip threshold db).affected = [] := by
      simpa using h0
    cases h
    refine ⟨ha.symm, Pending.commit_unaffected ha
      (Table.update_eq_self (fun r => by split_ifs <;> rfl) fun r hr => ?_)⟩
    have hf : db.receipts.rows.filter (immature tip threshold) = [] := by
      simpa only [maturityPending, idSet_eq_nil, List.map_eq_nil_iff] using ha
    rw [if_neg (List.filter_eq_nil_iff.mp hf r hr)]
  · obtain ⟨_, hc, h⟩ := bind_ok h
    cases h
    exact ⟨rfl, hc⟩

lemma reconcile_ok (h : reconcileAttributedReceiptsInRange receipts startHeight endHeight tip
      finality now db = .ok (out, db')) :
    out.affectedAddressIds = (reconcilePending receipts startHeight endHeight now db).affected ∧
      (reconcilePending receipts startHeight endHeight now db).commit tip finality now
        "reorg_reconcile" db = .ok db' := by
  simp only [reconcileAttributedReceiptsInRange] at h
  split_ifs at h with h0
  obtain ⟨_, hc, h⟩ := bind_ok h
  cases h
  exact ⟨rfl, hc⟩

lemma revoke_ok (h : revokeMinedReceiptsAboveTip tip finality now db = .ok (out, db')) :
    out.affectedAddressIds = (revokePending tip now db).affected ∧
      (revokePending tip now db).commit tip finality now "reorg_reconcile" db = .ok db' := by
  simp only [revokeMinedReceiptsAboveTip] at h
  split_ifs at h with h0
  · have ha : (revokePending tip now db).affected = [] := by simpa using h0
    cases h
    refine ⟨ha.symm, Pending.commit_unaffected ha
      (Table.update_eq_self (fun r => by split_ifs <;> rfl) fun r hr => ?_)⟩
    have hf : db.receipts.rows.filter (aboveTip tip) = [] := by
      simpa only [revokePending, idSet_eq_nil, List.map_eq_nil_iff] using ha
    rw [if_neg (List.filter_eq_nil_iff.mp hf r hr)]
  · obtain ⟨_, hc, h⟩ := bind_ok h
    cases h
    exact ⟨rfl, hc⟩

lemma mempool_ok {cutoffOf : Timestamp → Except AppError Timestamp} {txids : List String}
    {revokeMissing : Bool}
    (h : reconcileMempoolSnapshot cutoffOf txids receipts now tip finality threshold
      revokeMissing db = .ok (out, db')) :
    ∃ cutoff, cutoffOf now = .ok cutoff ∧
      out.affectedAddressIds =
        (mempoolPending cutoff txids receipts now threshold revokeMissing db).affected ∧
      (mempoolPending cutoff txids receipts now threshold revokeMissing db).commit tip finality
        now "mempool_reconcile" db = .ok db' := by
  obtain ⟨cutoff, hcut, h⟩ := bind_ok h
  simp only at h
  split_ifs at h
  obtain ⟨_, hc, h⟩ := bind_ok h
  cases h
  exact ⟨cutoff, hcut, rfl, hc⟩

/-! ### Rows of an address that is left out -/

section views

variable {t : Table ReceiptRow.receiptUid} {a : ℕ}

/-- An update keeps the view of an address when it keeps its rows there, with their core,
and brings no row of another address to it. -/
lemma view_update {f : ReceiptRow → ReceiptRow} (hf : ∀ r, (f r).receiptUid = r.receiptUid)
    (h : ∀ r ∈ t.rows, (f r).addressId = r.addressId ∧ (r.addressId = a → core (f r) = core r)) :
    view (t.update f hf).rows a = view t.rows a := by
  unfold view
  rw [Table.rows_update, List.filter_map, List.map_map]
  have hfilter : t.rows.filter ((fun r => decide (r.addressId = a)) ∘ f) =
      t.rows.filter fun r => decide (r.addressId = a) :=
    List.filter_congr fun r hr => by simp [(h r hr).1]
  rw [hfilter]
  refine List.map_congr_left fun r hr => ?_
  have hr := List.mem_filter.mp hr
  exact (h r hr.1).2 (by simpa using hr.2)

lemma view_upsert {new : ReceiptRow} {merge : ReceiptRow → ReceiptRow}
    (hm : ∀ r, (merge r).receiptUid = r.receiptUid)
    (hnew : t.find? new.receiptUid = none → new.addressId ≠ a)
    (hold : ∀ old, t.find? new.receiptUid = some old →
      (merge old).addressId = old.addressId ∧ (old.addressId = a → core (merge old) = core old)) :
    view (t.upsert new merge hm).rows a = view t.rows a := by
  unfold Table.upsert
  split_ifs with h
  · refine view_update _ fun r hr => ?_
    split_ifs with hk
    · exact hold r (hk ▸ Table.find?_of_mem hr)
    · exact ⟨rfl, fun _ => rfl⟩
  · have hn := hnew (Table.find?_eq_none_iff.mpr h)
    simp [Table.rows_insert, view, hn]

/-- Every row is at the address its uid belongs to. -/
def Owned (owner : ReceiptUid → ℕ) (t : Table ReceiptRow.receiptUid) : Prop :=
  ∀ r ∈ t.rows, r.addressId = owner r.receiptUid

lemma Owned.find? {owner : ReceiptUid → ℕ} (h : Owned owner t) {u : ReceiptUid} {r : ReceiptRow}
    (hr : t.find? u = some r) : r.addressId = owner u := by
  rw [h r (Table.mem_of_find? hr), Table.key_of_find? hr]

lemma Owned.update {owner : ReceiptUid → ℕ} (h : Owned owner t) {f : ReceiptRow → ReceiptRow}
    (hf : ∀ r, (f r).receiptUid = r.receiptUid) (ha : ∀ r, (f r).addressId = r.addressId) :
    Owned owner (t.update f hf) := by
  intro r hr
  obtain ⟨r', hr', rfl⟩ := List.mem_map.mp hr
  rw [ha, hf, h r' hr']

lemma Owned.upsert {owner : ReceiptUid → ℕ} (h : Owned owner t) {new : ReceiptRow}
    {merge : ReceiptRow → ReceiptRow} (hm : ∀ r, (merge r).receiptUid = r.receiptUid)
    (hnew : new.addressId = owner new.receiptUid)
    (ha : ∀ r, (merge r).addressId = new.addressId) : Owned owner (t.upsert new merge hm) := by
  intro r hr
  rcases (Table.mem_upsert_iff merge hm).mp hr with ⟨hr, -⟩ | rfl
  · exact h r hr
  · rcases hf : t.find? new.receiptUid with _ | old
    · exact hnew
    · simp only [Option.elim]
      rw [ha, hm, Table.key_of_find? hf, hnew]

/-! ### Writing a list of receipts -/

variable {ε : Type} (new : ε → ReceiptRow) (merge : ε → ReceiptRow → ReceiptRow)
  (hm : ∀ e r, (merge e r).receiptUid = r.receiptUid)

/-- Upsert one row for every element of a list. -/
def writeAll (es : List ε) (t : Table ReceiptRow.receiptUid) : Table ReceiptRow.receiptUid :=
  es.foldl (fun t e => t.upsert (new e) (merge e) (hm e)) t

@[simp] lemma writeAll_nil : writeAll new merge hm [] t = t := rfl

@[simp] lemma writeAll_cons (e : ε) (es : List ε) :
    writeAll new merge hm (e :: es) t =
      writeAll new merge hm es (t.upsert (new e) (merge e) (hm e)) := rfl

variable {owner : ReceiptUid → ℕ} {es : List ε}

lemma find?_writeAll_of_notMem {u : ReceiptUid} (h : ∀ e ∈ es, (new e).receiptUid ≠ u) :
    (writeAll new merge hm es t).find? u = t.find? u := by
  induction es generalizing t with
  | nil => rfl
  | cons e es ih =>
    rw [writeAll_cons, ih fun e' he' => h e' (List.mem_cons_of_mem e he'), Table.find?_upsert,
      if_neg (h e (by simp)).symm]

/-- **What a list of writes stores**, when each writes a row of its own. -/
lemma find?_writeAll (hd : (es.map fun e => (new e).receiptUid).Nodup) {e : ε} (he : e ∈ es) :
    (writeAll new merge hm es t).find? (new e).receiptUid =
      some ((t.find? (new e).receiptUid).elim (new e) (merge e)) := by
  induction es generalizing t with
  | nil => simp at he
  | cons e' es ih =>
    rw [List.map_cons, List.nodup_cons] at hd
    rw [writeAll_cons]
    rcases List.mem_cons.mp he with rfl | he'
    · rw [find?_writeAll_of_notMem, Table.find?_upsert, if_pos rfl]
      intro e' he' heq
      exact hd.1 (heq ▸ List.mem_map_of_mem he')
    · have hne : (new e).receiptUid ≠ (new e').receiptUid := by
        intro heq
        exact hd.1 (heq ▸ List.mem_map_of_mem he')
      rw [ih hd.2 he', Table.find?_upsert, if_neg hne]

/-- Writes to rows that are there add none. -/
lemma keys_writeAll (h : ∀ e ∈ es, (new e).receiptUid ∈ t.rows.map ReceiptRow.receiptUid) :
    (writeAll new merge hm es t).rows.map ReceiptRow.receiptUid =
      t.rows.map ReceiptRow.receiptUid := by
  induction es generalizing t with
  | nil => rfl
  | cons e es ih =>
    have hkeys := Table.keys_upsert (merge e) (hm e) (h e List.mem_cons_self)
    rw [writeAll_cons, ih fun e' he' => hkeys ▸ h e' (List.mem_cons_of_mem e he'), hkeys]

/-- Every row after the writes was there before and is not written, or was written. -/
lemma mem_writeAll {r : ReceiptRow} (hr : r ∈ (writeAll new merge hm es t).rows) :
    (r ∈ t.rows ∧ ∀ e ∈ es, (new e).receiptUid ≠ r.receiptUid) ∨
      ∃ e ∈ es, r = new e ∨ ∃ old, r = merge e old := by
  induction es generalizing t with
  | nil => exact Or.inl ⟨hr, by simp⟩
  | cons e es ih =>
    rcases ih hr with ⟨h, hes⟩ | ⟨e', he', h⟩
    · rcases (Table.mem_upsert_iff _ (hm e)).mp h with ⟨h, hne⟩ | rfl
      · refine Or.inl ⟨h, fun e' he' => ?_⟩
        rcases List.mem_cons.mp he' with rfl | he'
        · exact hne.symm
        · exact hes e' he'
      · refine Or.inr ⟨e, by simp, ?_⟩
        rcases t.find? (new e).receiptUid with _ | old
        · exact Or.inl rfl
        · exact Or.inr ⟨old, rfl⟩
    · exact Or.inr ⟨e', List.mem_cons_of_mem e he', h⟩

lemma Owned.writeAll (h : Owned owner t)
    (hes : ∀ e ∈ es, (new e).addressId = owner (new e).receiptUid)
    (ha : ∀ e r, (merge e r).addressId = (new e).addressId) :
    Owned owner (ZcashPayment.writeAll new merge hm es t) := by
  induction es generalizing t with
  | nil => exact h
  | cons e es ih =>
    exact ih (h.upsert (hm e) (hes e (by simp)) (ha e))
      fun e' he' => hes e' (List.mem_cons_of_mem e he')

/-- **Writes that go unnoticed**: when every receipt of an address finds a row with the core
it would write, the view of the address stays as it was. -/
lemma view_writeAll (ht : Owned owner t)
    (hes : ∀ e ∈ es, (new e).addressId = owner (new e).receiptUid)
    (ha : ∀ e r, (merge e r).addressId = (new e).addressId)
    (hc : ∀ e r, core (merge e r) = core (new e))
    (hsame : ∀ e ∈ es, (new e).addressId = a →
      ∃ old, t.find? (new e).receiptUid = some old ∧ core old = core (new e)) :
    view (writeAll new merge hm es t).rows a = view t.rows a := by
  induction es generalizing t with
  | nil => rfl
  | cons e es ih =>
    have he : (new e).addressId = owner (new e).receiptUid := hes e (by simp)
    have hview : view (t.upsert (new e) (merge e) (hm e)).rows a = view t.rows a := by
      refine view_upsert (hm e) (fun hn heq => ?_) fun old hold => ?_
      · obtain ⟨old, hold, -⟩ := hsame e (by simp) heq
        rw [hn] at hold
        cases hold
      · have hown : old.addressId = (new e).addressId := by rw [ht.find? hold, he]
        refine ⟨by rw [ha, hown], fun h' => ?_⟩
        obtain ⟨old', hold', hcore⟩ := hsame e (by simp) (hown ▸ h')
        rw [hold] at hold'
        cases hold'
        rw [hc, hcore]
    rw [writeAll_cons, ih (ht.upsert (hm e) he (ha e))
      (fun e' he' => hes e' (List.mem_cons_of_mem e he')), hview]
    intro e' he' heq
    obtain ⟨old, hold, hcore⟩ := hsame e' (List.mem_cons_of_mem e he') heq
    rw [Table.find?_upsert]
    split_ifs with hk
    · -- An earlier receipt of the list had this uid: it wrote the same core.
      rw [hold]
      have hown : (new e).addressId = a := by
        rw [he, ← hk, ← hes e' (List.mem_cons_of_mem e he'), heq]
      obtain ⟨old', hold', hcore'⟩ := hsame e (by simp) hown
      rw [← hk, hold] at hold'
      cases hold'
      exact ⟨merge e old, rfl, by rw [hc, ← hcore', hcore]⟩
    · exact ⟨old, hold, hcore⟩

end views

end ZcashPayment

import ZcashPayment.SessionRuns

/-!
Simulated payments count like one transaction each.

A simulated payment that names an earlier transaction replaces what that transaction paid to the
address; it never adds to it, and never reaches another address. So what a session is told is the
sum over the newest report of each transaction, as far as the report has the depth to count. A
request that is well formed is recorded, unless the values reported at the address would then leave
the range of the database's sums.
-/

namespace ZcashPayment

variable {settings : SessionSettings} {reports : List Report} {report : Report} {txidHex : String}
  {a : ℕ} {db db' : Db} {now : Timestamp}

/-! ### What the reports add up to -/

/-- A report has the depth to count. -/
def Report.counts (settings : SessionSettings) (r : Report) : Bool :=
  decide ((simulatedDepth r.confirmations).2.2 ≥ settings.webhookReportConfirmations)

/-- What a report is worth. -/
def Report.worth (settings : SessionSettings) (r : Report) : ℤ :=
  if r.counts settings then r.valueZat else 0

/-- The newest report of a transaction at an address. -/
def newestReport (reports : List Report) (txidHex : String) (a : ℕ) : Option Report :=
  reports.reverse.find? fun r => r.txidHex = txidHex && r.addressId = a

/-- The transactions reported at an address. -/
def reportedTxids (reports : List Report) (a : ℕ) : List String :=
  ((reports.filter fun r => r.addressId = a).map (·.txidHex)).dedup

/-- Each transaction counts once, with its newest report. -/
def reportedTotal (settings : SessionSettings) (reports : List Report) (a : ℕ) : ℤ :=
  ((reportedTxids reports a).map fun txidHex =>
    (newestReport reports txidHex a).elim 0 (·.worth settings)).sum

/-- The values at an address, counted or not: what the database sums. -/
def reportedValue (reports : List Report) (a : ℕ) : ℤ :=
  ((reportedTxids reports a).map fun txidHex =>
    (newestReport reports txidHex a).elim 0 fun r => (r.valueZat : ℤ)).sum

lemma newestReport_append (reports : List Report) (r : Report) (txidHex : String) (a : ℕ) :
    newestReport (reports ++ [r]) txidHex a =
      if r.txidHex = txidHex ∧ r.addressId = a then some r else newestReport reports txidHex a := by
  unfold newestReport
  rw [List.reverse_append, List.reverse_singleton, List.singleton_append, List.find?_cons]
  by_cases h : r.txidHex = txidHex ∧ r.addressId = a
  · simp [h]
  · rw [if_neg h]
    have : (decide (r.txidHex = txidHex) && decide (r.addressId = a)) = false := by
      simpa using h
    rw [this]

lemma mem_reportedTxids : txidHex ∈ reportedTxids reports a ↔
    (newestReport reports txidHex a).isSome = true := by
  simp only [reportedTxids, List.mem_dedup, List.mem_map, List.mem_filter, newestReport,
    List.find?_isSome, List.mem_reverse, decide_eq_true_eq, Bool.and_eq_true]
  exact ⟨fun ⟨r, ⟨hr, ha⟩, ht⟩ => ⟨r, hr, ht, ha⟩, fun ⟨r, hr, ht, ha⟩ => ⟨r, ⟨hr, ha⟩, ht⟩⟩

lemma newestReport_spec (h : newestReport reports txidHex a = some report) :
    report.txidHex = txidHex ∧ report.addressId = a := by
  simpa using List.find?_some h

/-! ### The rows of the reports -/

lemma simulatedUid_inj {txidHex txidHex' : String} {a a' : ℕ}
    (h : simulatedUid txidHex a = simulatedUid txidHex' a') : txidHex = txidHex' ∧ a = a' := by
  simp only [simulatedUid, ReceiptUid.mk.injEq, true_and] at h
  refine ⟨String.ext ?_, h.2⟩
  have := congrArg String.toList h.1
  rw [String.toList_append, String.toList_append] at this
  exact List.append_cancel_right this

/-- A row stands for a report. -/
structure StandsFor (settings : SessionSettings) (row : ReceiptRow) (r : Report) : Prop where
  addressId : row.addressId = r.addressId
  valueZat : row.valueZat = r.valueZat
  eligible : row.eligibleForWebhook = r.counts settings
  active : row.receiptState = .active

/-- The receipts are those of the reports, one for each transaction and address. -/
structure ReportRows (settings : SessionSettings) (reports : List Report)
    (t : Table ReceiptRow.receiptUid) : Prop where
  reported : ∀ row ∈ t.rows, ∃ txidHex a, row.receiptUid = simulatedUid txidHex a
  newest : ∀ txidHex a, match newestReport reports txidHex a with
    | some r => ∃ row, t.find? (simulatedUid txidHex a) = some row ∧ StandsFor settings row r
    | none => t.find? (simulatedUid txidHex a) = none

lemma ReportRows.upsert {t : Table ReceiptRow.receiptUid} (h : ReportRows settings reports t)
    (r : Report) (now : Timestamp) :
    ReportRows settings (reports ++ [r])
      (upsertReceipt t (simulatedReceipt settings.webhookReportConfirmations r.txidHex r.addressId
        r.valueZat r.confirmations now)) := by
  set e := simulatedReceipt settings.webhookReportConfirmations r.txidHex r.addressId r.valueZat
    r.confirmations now with he
  have huid : (insertedRow e).receiptUid = simulatedUid r.txidHex r.addressId := rfl
  constructor
  · intro row hrow
    rcases Table.mem_upsert_iff _ _ |>.mp hrow with ⟨hrow, -⟩ | rfl
    · exact h.reported row hrow
    · refine ⟨r.txidHex, r.addressId, ?_⟩
      rcases hf : t.find? (insertedRow e).receiptUid with _ | old
      · rfl
      · exact (Table.key_of_find? hf).trans huid
  · intro txidHex a
    have hfind : ∀ k, (upsertReceipt t e).find? k = if k = simulatedUid r.txidHex r.addressId then
        some ((t.find? k).elim (insertedRow e) (mergedRow e)) else t.find? k :=
      fun k => Table.find?_upsert _ _
    rw [newestReport_append, hfind]
    by_cases hr : r.txidHex = txidHex ∧ r.addressId = a
    · obtain ⟨rfl, rfl⟩ := hr
      rw [if_pos ⟨rfl, rfl⟩, if_pos rfl]
      refine ⟨_, rfl, ?_⟩
      rcases t.find? (simulatedUid r.txidHex r.addressId) with _ | old
      · exact ⟨rfl, rfl, rfl, rfl⟩
      · exact ⟨rfl, rfl, rfl, rfl⟩
    · have hne : simulatedUid txidHex a ≠ simulatedUid r.txidHex r.addressId := by
        intro heq
        obtain ⟨h1, h2⟩ := simulatedUid_inj heq
        exact hr ⟨h1.symm, h2.symm⟩
      rw [if_neg hr, if_neg hne]
      exact h.newest txidHex a

/-- What a row adds to the total of its address. -/
def rowWorth (row : ReceiptRow) : ℤ :=
  if row.receiptState = .active ∧ row.eligibleForWebhook then row.valueZat else 0

lemma StandsFor.worth {row : ReceiptRow} (h : StandsFor settings row report) :
    rowWorth row = report.worth settings := by
  simp [rowWorth, Report.worth, h.active, h.eligible, h.valueZat]

/-- What a row adds to the values of its address. -/
def rowValue (row : ReceiptRow) : ℤ := if row.receiptState = .active then row.valueZat else 0

lemma StandsFor.value {row : ReceiptRow} (h : StandsFor settings row report) :
    rowValue row = report.valueZat := by
  simp [rowValue, h.active, h.valueZat]

/-- A sum over the rows of an address, row by row. -/
lemma sumZat_address (rows : List ReceiptRow) (a : ℕ) (p : ReceiptRow → Bool) :
    sumZat rows (fun r => decide (r.addressId = a) && p r) =
      ((rows.filter fun r => r.addressId = a).map fun r =>
        if p r then (r.valueZat : ℤ) else 0).sum := by
  induction rows with
  | nil => rfl
  | cons r rows ih =>
    rw [sumZat_cons, ih]
    by_cases ha : r.addressId = a
    · by_cases hp : p r <;> simp [ha, hp]
    · simp [ha]

lemma eligibleTotalZat_eq (rows : List ReceiptRow) (a : ℕ) :
    eligibleTotalZat rows a = ((rows.filter fun r => r.addressId = a).map rowWorth).sum := by
  refine (sumZat_address rows a _).trans (congrArg List.sum (List.map_congr_left fun r _ => ?_))
  simp [rowWorth]

lemma activeTotalZat_address (rows : List ReceiptRow) (a : ℕ) :
    activeTotalZat rows a = ((rows.filter fun r => r.addressId = a).map rowValue).sum := by
  refine (sumZat_address rows a _).trans (congrArg List.sum (List.map_congr_left fun r _ => ?_))
  simp [rowValue]

/-- The rows of an address are those of the transactions reported there. -/
lemma ReportRows.perm_uids {t : Table ReceiptRow.receiptUid} (h : ReportRows settings reports t)
    (a : ℕ) :
    ((t.rows.filter fun r => r.addressId = a).map (·.receiptUid)).Perm
      ((reportedTxids reports a).map fun txidHex => simulatedUid txidHex a) := by
  have hnodup : ((t.rows.filter fun r => r.addressId = a).map (·.receiptUid)).Nodup :=
    t.nodup.sublist (List.filter_sublist.map _)
  have hinj : Function.Injective fun txidHex => simulatedUid txidHex a :=
    fun _ _ h => (simulatedUid_inj h).1
  refine (List.perm_ext_iff_of_nodup hnodup ((List.nodup_dedup _).map hinj)).mpr fun u => ?_
  simp only [List.mem_map]
  constructor
  · rintro ⟨row, hrow, rfl⟩
    obtain ⟨hrow, ha⟩ := List.mem_filter.mp hrow
    obtain ⟨txidHex, a', hu⟩ := h.reported row hrow
    have hnew := h.newest txidHex a'
    have hfind := Table.find?_of_mem hrow
    rw [hu] at hfind
    rcases hn : newestReport reports txidHex a' with _ | r
    · rw [hn] at hnew
      simp [hnew] at hfind
    · rw [hn] at hnew
      obtain ⟨row', hf, hs⟩ := hnew
      obtain rfl := Option.some.inj (hfind.symm.trans hf)
      obtain rfl : a' = a := by
        rw [← (newestReport_spec hn).2, ← hs.addressId]
        simpa using ha
      exact ⟨txidHex, mem_reportedTxids.mpr (by rw [hn]; rfl), hu.symm⟩
  · rintro ⟨txidHex, ht, rfl⟩
    obtain ⟨r, hr⟩ := Option.isSome_iff_exists.mp (mem_reportedTxids.mp ht)
    have hnew := h.newest txidHex a
    rw [hr] at hnew
    obtain ⟨row, hf, hs⟩ := hnew
    refine ⟨row, List.mem_filter.mpr ⟨Table.mem_of_find? hf, ?_⟩, Table.key_of_find? hf⟩
    simpa using hs.addressId.trans (newestReport_spec hr).2

/-- **A sum over the rows of an address** is that over the newest reports of its transactions. -/
lemma ReportRows.sum {t : Table ReceiptRow.receiptUid} {worth : ReceiptRow → ℤ}
    {reportWorth : Report → ℤ} (h : ReportRows settings reports t)
    (hworth : ∀ row r, StandsFor settings row r → worth row = reportWorth r) (a : ℕ) :
    ((t.rows.filter fun r => r.addressId = a).map worth).sum =
      ((reportedTxids reports a).map fun txidHex =>
        (newestReport reports txidHex a).elim 0 reportWorth).sum := by
  set rowsAt := t.rows.filter fun r => r.addressId = a
  have hleft : rowsAt.map worth =
      (rowsAt.map (·.receiptUid)).map fun u => (t.find? u).elim 0 worth := by
    rw [List.map_map]
    refine List.map_congr_left fun row hrow => ?_
    simp [Table.find?_of_mem (List.mem_filter.mp hrow).1]
  rw [hleft, ((h.perm_uids a).map _).sum_eq, List.map_map]
  refine congrArg List.sum (List.map_congr_left fun txidHex _ => ?_)
  have hnew := h.newest txidHex a
  rcases hn : newestReport reports txidHex a with _ | r
  · rw [hn] at hnew
    simp [hnew]
  · rw [hn] at hnew
    obtain ⟨row, hf, hs⟩ := hnew
    simp [hf, hworth row r hs]

lemma ReportRows.total {t : Table ReceiptRow.receiptUid} (h : ReportRows settings reports t)
    (a : ℕ) : eligibleTotalZat t.rows a = reportedTotal settings reports a :=
  (eligibleTotalZat_eq t.rows a).trans (h.sum (fun _ _ hs => hs.worth) a)

lemma ReportRows.value {t : Table ReceiptRow.receiptUid} (h : ReportRows settings reports t)
    (a : ℕ) : activeTotalZat t.rows a = reportedValue reports a :=
  (activeTotalZat_address t.rows a).trans (h.sum (fun _ _ hs => hs.value) a)

/-! ### Runs without a scanner -/

/-- With simulated payments on there is no scanner. -/
def SessionEvent.Unscanned : SessionEvent → Prop
  | .ledger .. => False
  | _ => True

lemma queue_receipts (now : Timestamp) (ids : List ℕ) (db : Db) :
    (queueWebhookDeliveriesForDirtyAddresses now ids db).2.receipts = db.receipts :=
  (queue_sameLedger now ids db).receipts

lemma allocate_receipts {new : NewAddress} {createdAt : Timestamp}
    (h : allocateFreshAddress new createdAt db = .ok (a, db')) : db'.receipts = db.receipts := by
  obtain ⟨-, -, rfl⟩ := allocateFreshAddress_ok h
  rfl

lemma ReportRows.step {s : Sessions} {parse : UriParser}
    {cutoffOf : Timestamp → Except AppError Timestamp}
    (h : ReportRows settings s.reports s.store.db.receipts) {event : SessionEvent}
    (he : event.Unscanned) :
    ReportRows settings (s.step parse settings cutoffOf event).reports
      (s.step parse settings cutoffOf event).store.db.receipts := by
  cases event with
  | ledger => exact he.elim
  | queue now ids =>
    unfold Sessions.step
    rw [queue_receipts]
    exact h
  | abandon i => exact h
  | mint request new createdAt =>
    unfold Sessions.step
    dsimp only
    split
    · exact h
    · split
      · exact h
      · next hm =>
        obtain ⟨⟨a', db⟩, halloc, hm⟩ := bind_ok hm
        cases hm
        dsimp only
        rw [allocate_receipts halloc]
        exact h
  | finish i bytes createdAt =>
    unfold Sessions.step
    dsimp only
    split
    · exact h
    · split
      · exact h
      · next hf =>
        obtain ⟨store, hins, hf⟩ := bind_ok hf
        cases hf
        unfold SessionStore.insertPaymentLink at hins
        split_ifs at hins
        cases hins
        exact h
  | simulate request random now =>
    obtain ⟨simulatedData, db, hstore, hdb⟩ := simulatePayment_db settings request random now
      s.store
    unfold Sessions.step
    dsimp only
    rcases hdb with ⟨⟨e, he⟩, rfl⟩ | ⟨answer, txidHex, valueZat, record, affected, db₁, hok, -, -,
      happly, rfl⟩
    · split
      · next heq =>
        rw [heq] at hstore
        obtain rfl : _ = _ := hstore
        exact h
      · next heq =>
        rw [heq] at he
        cases he
    · split
      · next heq =>
        rw [heq] at hok
        cases hok
      · next heq =>
        rw [heq] at hstore hok
        obtain rfl : _ = _ := hstore
        cases hok
        dsimp only
        rw [queue_receipts, Pending.commit_ok (apply_ok happly).2]
        exact h.upsert ⟨txidHex, record.addressId, valueZat, request.confirmations⟩ now

lemma ReportRows.run {s : Sessions} {parse : UriParser}
    {cutoffOf : Timestamp → Except AppError Timestamp}
    (h : ReportRows settings s.reports s.store.db.receipts) {events : List SessionEvent}
    (he : ∀ e ∈ events, e.Unscanned) :
    ReportRows settings (s.run parse settings cutoffOf events).reports
      (s.run parse settings cutoffOf events).store.db.receipts := by
  induction events generalizing s with
  | nil => exact h
  | cons e events ih =>
    exact ih (h.step (he e List.mem_cons_self)) fun e' he' => he e' (List.mem_cons_of_mem e he')

lemma ReportRows.start (settings : SessionSettings) (config : Config) :
    ReportRows settings [] (startDb config "" []).receipts := by
  obtain ⟨-, hrows⟩ := startDb_inv (fun _ => 0) config 0 "" []
  constructor
  · intro row hrow
    rw [hrows] at hrow
    cases hrow
  · intro txidHex a
    show Table.find? _ _ = none
    rw [Table.find?, hrows]
    rfl

/-! ### What a request does -/

section request

variable {request : SimulatePaymentRequest} {random : Fin 32 → UInt8} {s : SessionStore}

end request

end ZcashPayment

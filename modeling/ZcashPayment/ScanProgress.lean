import ZcashPayment.Reorgs

/-!
What a range is taken to hold.

A fetch of compact blocks returns whatever the node's stream held; nobody counts the blocks or
looks at their heights. The range is then reconciled as a whole: an active mined row of the
range that was not scanned is revoked, and the end of a forward batch becomes the scanned
height. A row survives a missing block only when its receipt turns up in another one.
-/

namespace ZcashPayment

open Prog

/-! ### Soundness of one fetch -/

/-- The answer has a block of height `h`, for a range that holds `h`. -/
def Answer.returned (h : ℕ) : Answer → Bool
  | .compactBlocks batch blocks =>
    batch.startHeight ≤ h && h ≤ batch.endHeight && blocks.any (·.height = h)
  | _ => false

/-- A block of height `h` was returned by a fetch of its range. -/
def Returned (w : World) (h : ℕ) : Prop := ∃ p ∈ w.answers, p.2.returned h = true

/-- A receipt was scanned, and its receiver known. -/
def Found (w : World) (u : ReceiptUid) : Prop :=
  ∃ s ∈ w.scans, ∃ r ∈ s.receipts, r.receiptUid = u ∧
    (s.find r.pool r.receiverFingerprint).isSome = true

/-- A height of the range is passed, or a row at it revoked, only where its block was read. -/
structure ReadSoundly (batch : ScanBatch) (w w' : World) : Prop where
  advanced : ∀ h, batch.startHeight ≤ h → h ≤ batch.endHeight →
    ∀ L L', w.db.scanned = some L → w'.db.scanned = some L' → L < h → h ≤ L' → Returned w' h
  revoked : ∀ row ∈ w.db.receipts.rows, row.receiptState = .active →
    ∀ row', w'.db.row row.receiptUid = some row' → row'.receiptState ≠ .active →
      ∀ h : ℕ, batch.startHeight ≤ h → h ≤ batch.endHeight → row.minedHeight = h → Returned w' h

/-- Every row at a height that was not returned has its receipt in another block. -/
def MissingFound (batch : ScanBatch) (w w' : World) : Prop :=
  ∀ row ∈ w.db.receipts.rows, isActiveMined row = true →
    ∀ h : ℕ, batch.startHeight ≤ h → h ≤ batch.endHeight → row.minedHeight = h →
      Returned w' h ∨ Found w' row.receiptUid

/-- Every height of the range that was not scanned before was returned. -/
def NewReturned (batch : ScanBatch) (w w' : World) : Prop :=
  ∀ h, batch.startHeight ≤ h → h ≤ batch.endHeight → ∀ L, w.db.scanned = some L → L < h →
    Returned w' h

/-! ### What a reading does -/

/-- The ledger of `w` and the attributions in `scans`. -/
structure Quiet (db : Db) (scans : List Scan) (w : World) : Prop where
  receipts : w.db.receipts = db.receipts
  scanned : w.db.scanned = db.scanned
  scans : w.scans = scans

variable {env : Env} {config : Config} {awaiting : Await} {T : ℕ} {batch : ScanBatch} {α : Type}
  {db : Db} {scans : List Scan} {w w' : World} {now : Timestamp} {u : ReceiptUid}

lemma Quiet.ticked (h : Quiet db scans w) : Quiet db scans (w.ticked env) := by
  have hkeep : OfLedger fun db' => db'.receipts = db.receipts ∧ db'.scanned = db.scanned :=
    fun _ _ hr hs h => ⟨hr.trans h.1, hs.trans h.2⟩
  have hstable : Stable env fun w => _ := hkeep.stable
  have ht := hstable.tick w ⟨h.receipts, h.scanned⟩
  exact ⟨ht.1, ht.2, h.scans⟩

lemma tick_quiet : Triple (Quiet db scans) (tick env) (fun _ => Quiet db scans)
    fun _ => Quiet db scans := by
  intro w hw
  have ht : Quiet db scans (w.ticked env) := hw.ticked
  unfold tick
  by_cases hk : env.killed (w.time + 1 + env.delay w.time)
  · simp only [hk, if_true]
    exact ht
  · simp only [hk, if_false, Bool.false_eq_true]
    exact ht

lemma await_quiet {ask : ℕ → Except AppError α} {answer : α → Answer} :
    Triple (Quiet db scans) (await env awaiting ask answer) (fun _ => Quiet db scans)
      fun _ => Quiet db scans := by
  refine tick_quiet.bind fun t => ?_
  rcases ask t with e | a
  · exact Triple.stop fun w hw => hw
  · exact fun w hw => ⟨hw.receipts, hw.scanned, hw.scans⟩

lemma fetch_quiet :
    Triple (Quiet db scans) (fetchCompactBlocksForHeightRange env awaiting batch)
      (fun _ => Quiet db scans) fun _ => Quiet db scans := by
  unfold fetchCompactBlocksForHeightRange
  exact Triple.ite (fun _ => Triple.pure fun w hw => hw)
    fun _ => await_quiet.bind fun _ => Triple.pure fun w hw => hw

/-- A transaction writes what its operation returns, or nothing. -/
lemma transaction_quiet {op : Timestamp → Db → Except AppError (α × Db)} {Q : α → World → Prop}
    (hop : ∀ w w' now a, Quiet db scans w → op now w.db = .ok (a, w'.db) →
      w'.scans = w.scans → Q a w') :
    Triple (Quiet db scans) (transaction env awaiting op) Q fun _ => Quiet db scans := by
  refine tick_quiet.bind fun t => ?_
  intro w hw
  unfold commitAt
  rcases h : op (env.clock t) w.db with e | ⟨a, db'⟩
  · exact hw
  · exact hop w { w with db := db', history := _ } _ a hw h rfl

/-- **Attribution** is recorded with the receivers it used. -/
lemma attribute_quiet {receipts : List IncomingReceipt} :
    Triple (Quiet db []) (attributeReceipts env config awaiting T receipts)
      (fun r w => ∃ find, Quiet db [⟨find, receipts⟩] w ∧ attributeScannedReceipts find T
        config.webhookReportConfirmations r.1 receipts = .ok r.2)
      fun _ w => ∃ scans, Quiet db scans w := by
  have hnow : Triple (Quiet db []) (nowUtc env) (fun _ => Quiet db [])
      fun _ w => ∃ scans, Quiet db scans w :=
    (tick_quiet.consequence (fun _ h => h) (fun _ _ h => h) fun _ _ h => ⟨_, h⟩).bind
      fun _ => Triple.pure fun w hw => hw
  refine hnow.bind fun observedAt => ?_
  have hget : Triple (Quiet db []) get (fun _ => Quiet db [])
      fun (_ : Halt) w => ∃ scans, Quiet db scans w := Triple.get fun w hw => hw
  refine hget.bind fun w₀ => ?_
  refine Triple.bind (R := fun _ => Quiet db
    [⟨findAddressIdByReceiverFingerprint w₀.db, receipts⟩]) (fun w hw => ?_) fun _ => ?_
  · exact ⟨hw.receipts, hw.scanned, by rw [hw.scans]⟩
  · rcases h : attributeScannedReceipts (findAddressIdByReceiverFingerprint w₀.db) T
      config.webhookReportConfirmations observedAt receipts with e | attributed
    · exact Triple.stop fun w hw => ⟨_, hw⟩
    · exact Triple.pure fun w hw => ⟨_, hw, h⟩

lemma uid_mem_scannedByUid {receipts : List AttributedScannedReceipt} :
    (∃ e ∈ scannedByUid receipts, e.receiptUid = u) ↔ ∃ e ∈ receipts, e.receiptUid = u := by
  induction receipts with
  | nil => exact Iff.rfl
  | cons r rs ih =>
    unfold scannedByUid
    split_ifs with h
    · obtain ⟨r', hr', heq⟩ := List.any_eq_true.mp h
      simp only [List.mem_cons, exists_eq_or_imp, ih]
      refine ⟨Or.inr, fun hu => hu.elim (fun hu => ?_) id⟩
      exact ⟨r', hr', (of_decide_eq_true heq).trans hu⟩
    · simp only [List.mem_cons, exists_eq_or_imp, ih]

/-- **One row across a range**: an active row stays active, unless it is a mined row of the
range that was not found. -/
def Reconciled (batch : ScanBatch) (db : Db) (w : World) : Prop :=
  ∀ row ∈ db.receipts.rows, row.receiptState = .active →
    ∃ row', w.db.row row.receiptUid = some row' ∧
      (row'.receiptState ≠ .active ↔ isActiveMined row = true ∧
        inRange batch.startHeight batch.endHeight row = true ∧ ¬Found w row.receiptUid)

lemma reconciled {find : Pool → Bytes → Option ℕ} {receipts : List IncomingReceipt}
    {observedAt : Timestamp} {attributed : List AttributedScannedReceipt}
    {out : ReceiptRangeReconciliation} {threshold : ℕ} {tip : ℤ} {finality : ℕ}
    (hatt : attributeScannedReceipts find T threshold observedAt receipts = .ok attributed)
    (hok : reconcileAttributedReceiptsInRange attributed batch.startHeight batch.endHeight tip
      finality now db = .ok (out, w.db)) (hs : w.scans = [⟨find, receipts⟩]) :
    Reconciled batch db w := by
  intro row hrow hact
  have hfound : Found w row.receiptUid ↔
      ∃ e ∈ scannedByUid attributed, e.receiptUid = row.receiptUid := by
    rw [uid_mem_scannedByUid]
    simp only [Found, hs, List.mem_singleton, exists_eq_left, mem_attributeScannedReceipts hatt,
      Option.isSome_iff_exists]
    constructor
    · rintro ⟨r, hr, hu, a, ha⟩
      exact ⟨_, ⟨r, hr, a, ha, rfl⟩, hu⟩
    · rintro ⟨_, ⟨r, hr, a, ha, rfl⟩, hu⟩
      exact ⟨r, hr, hu, a, ha⟩
  have hold : db.row row.receiptUid = some row := Table.find?_of_mem hrow
  have hreceipts := Pending.commit_receipts (reconcile_ok hok).2
  rw [hfound, Db.row, hreceipts]
  by_cases hscan : ∃ e ∈ scannedByUid attributed, e.receiptUid = row.receiptUid
  · obtain ⟨e, he, hu⟩ := hscan
    refine ⟨_, hu ▸ find?_reconcile he, ?_⟩
    rw [hold]
    simp only [Option.elim_some, mergedRow, insertedRow, ne_eq, not_true_eq_false, false_iff]
    exact fun h => h.2.2 ⟨e, he, hu⟩
  · have hnone : ∀ e ∈ scannedByUid attributed, e.receiptUid ≠ row.receiptUid :=
      fun e he hu => hscan ⟨e, he, hu⟩
    have hany : (scannedByUid attributed).any (fun e => e.receiptUid = row.receiptUid) = false := by
      simpa using hnone
    refine ⟨_, (find?_reconcile_unscanned hnone).trans (by rw [hold]; rfl), ?_⟩
    simp only [hscan, not_false_eq_true, and_true]
    split_ifs with hm
    · simp only [missingFrom, hany, Bool.and_eq_true] at hm
      simp [revokedRow, hm.1]
    · simp only [missingFrom, hany, Bool.not_false, Bool.and_true, Bool.and_eq_true] at hm
      exact iff_of_false (fun h => h hact) fun h => hm ⟨h.2, h.1⟩

/-- What a range leaves when it was reconciled. -/
structure RangeDone (batch : ScanBatch) (db : Db) (w : World) : Prop where
  reconciled : Reconciled batch db w
  scanned : w.db.scanned = db.scanned

/-- **Reading a range** reconciles it whole, or writes nothing. -/
lemma reconcileRange_spec :
    Triple (Quiet db []) (reconcileRange env config awaiting T batch)
      (fun _ => RangeDone batch db) fun _ w => ∃ scans, Quiet db scans w := by
  refine Triple.bind (fetch_quiet.consequence (fun _ h => h) (fun _ _ h => h)
    fun _ _ h => ⟨_, h⟩) fun blocks => ?_
  refine attribute_quiet.bind fun r => ?_
  intro w hw
  obtain ⟨find, hq, hatt⟩ := hw
  refine (transaction_quiet fun w w' now out hq hok hscans => ?_).consequence (fun _ h => h)
    (fun _ _ h => h) (fun _ _ h => ⟨_, h⟩) w hq
  have hrec := reconciled hatt hok (hscans.trans hq.scans)
  refine ⟨fun row hrow => hrec row (hq.receipts ▸ hrow), ?_⟩
  rw [Pending.commit_scanned (reconcile_ok hok).2, hq.scanned]

/-! ### One turn of the pipeline -/

lemma Reconciled.congr (h : Reconciled batch db w) (hr : w'.db.receipts = w.db.receipts)
    (hs : w'.scans = w.scans) : Reconciled batch db w' := by
  intro row hrow hact
  obtain ⟨row', hrow', hiff⟩ := h row hrow hact
  refine ⟨row', by rwa [Db.row, hr], ?_⟩
  rwa [Found, hs]

/-- **One turn of the pipeline** stores the end of the batch, whatever was returned for it. -/
lemma scanBatch_spec :
    Triple (Quiet db []) (scanBatch env config T batch)
      (fun _ w => Reconciled batch db w ∧ w.db.scanned = some (batch.endHeight : ℤ))
      fun _ w => (∃ scans, Quiet db scans w) ∨ RangeDone batch db w := by
  have hkept : ∀ w w', RangeDone batch db w → Quiet w.db w.scans w' → RangeDone batch db w' :=
    fun w w' h hq => ⟨h.reconciled.congr hq.receipts hq.scans, hq.scanned.trans h.scanned⟩
  refine (reconcileRange_spec.consequence (fun _ h => h) (fun _ _ h => h)
    fun _ _ h => Or.inl h).bind fun out => ?_
  refine Triple.bind (R := fun _ => RangeDone batch db) (fun w hw => ?_) fun queued => ?_
  · refine (transaction_quiet fun w₁ w₂ now ids hq hok hscans => ?_).consequence (fun _ h => h)
      (fun _ _ h => h) (fun _ w' h => Or.inr (hkept w w' hw h)) w ⟨rfl, rfl, rfl⟩
    have hdb : (queueWebhookDeliveriesForDirtyAddresses now out.affectedAddressIds w₁.db).2 =
        w₂.db := by rw [Except.ok.inj hok]
    obtain ⟨hr, hs⟩ := queue_frame_scanned now out.affectedAddressIds w₁.db
    rw [hdb] at hr hs
    exact hkept w w₂ hw ⟨hr.trans hq.receipts, hs.trans hq.scanned, hscans.trans hq.scans⟩
  · refine Triple.bind (R := fun _ w => Reconciled batch db w ∧
      w.db.scanned = some (batch.endHeight : ℤ)) (fun w hw => ?_) fun _ => Triple.pure fun w h => h
    refine (transaction_quiet fun w₁ w₂ now m hq hok hscans => ?_).consequence (fun _ h => h)
      (fun _ _ h => h) (fun _ w' h => Or.inr (hkept w w' hw h)) w ⟨rfl, rfl, rfl⟩
    obtain ⟨current, transitions, -, hdb, hscanned, -⟩ := recordSyncStatus_ok hok
    have hreceipts : w₂.db.receipts = w₁.db.receipts := by rw [hdb]
    refine ⟨hw.reconciled.congr (hreceipts.trans hq.receipts) (hscans.trans hq.scans), ?_⟩
    rw [hdb]
    simp [Db.scanned, hscanned]

/-! ### Reading soundly -/

/-- What a reconciled range has revoked. -/
lemma Reconciled.revoked_iff (h : Reconciled batch w.db w') :
    (∀ row ∈ w.db.receipts.rows, row.receiptState = .active →
      ∀ row', w'.db.row row.receiptUid = some row' → row'.receiptState ≠ .active →
        ∀ n : ℕ, batch.startHeight ≤ n → n ≤ batch.endHeight → row.minedHeight = n →
          Returned w' n) ↔ MissingFound batch w w' := by
  constructor
  · intro hsound row hrow hact n h1 h2 hn
    have hactive : row.receiptState = .active := by
      simp only [isActiveMined, Bool.and_eq_true, decide_eq_true_eq] at hact
      exact hact.2
    by_contra hnot
    rw [not_or] at hnot
    obtain ⟨row', hrow', hiff⟩ := h row hrow hactive
    have hin : inRange batch.startHeight batch.endHeight row = true := by
      simp [inRange, hn, h1, h2]
    exact hnot.1 (hsound row hrow hactive row' hrow' (hiff.mpr ⟨hact, hin, hnot.2⟩) n h1 h2 hn)
  · intro hmissing row hrow hactive row' hrow' hrevoked n h1 h2 hn
    obtain ⟨row'', hrow'', hiff⟩ := h row hrow hactive
    rw [hrow'] at hrow''
    cases hrow''
    obtain ⟨hact, -, hnot⟩ := hiff.mp hrevoked
    exact (hmissing row hrow hact n h1 h2 hn).resolve_right hnot

/-- The scanned height did not move. -/
lemma ReadSoundly.of_scanned (hs : w'.db.scanned = w.db.scanned)
    (hrevoked : ∀ row ∈ w.db.receipts.rows, row.receiptState = .active →
      ∀ row', w'.db.row row.receiptUid = some row' → row'.receiptState ≠ .active →
        ∀ n : ℕ, batch.startHeight ≤ n → n ≤ batch.endHeight → row.minedHeight = n →
          Returned w' n) : ReadSoundly batch w w' where
  advanced h _ _ L L' hL hL' h3 h4 := by
    rw [hs, hL] at hL'
    obtain rfl := Option.some.inj hL'
    omega
  revoked := hrevoked

lemma Quiet.readSoundly (h : Quiet w.db scans w') : ReadSoundly batch w w' := by
  refine ReadSoundly.of_scanned h.scanned fun row hrow hact row' hrow' hrevoked => ?_
  have hold : w'.db.row row.receiptUid = some row := by
    rw [Db.row, h.receipts]
    exact Table.find?_of_mem hrow
  rw [hold] at hrow'
  exact absurd (Option.some.inj hrow' ▸ hact) hrevoked

/-- **A range is read soundly** exactly where every row at a height that was not returned turns
up in another block, and, for a batch of the forward scan, every height that was not scanned
before was returned. -/
theorem range_read_soundly_iff (env : Env) (config : Config) (T : ℕ) (batch : ScanBatch)
    (w : World) :
    let w₀ := { w with answers := [], scans := [] }
    (∀ out w', reconcileOverlapBatch env config T batch w₀ = (.ok out, w') →
      (ReadSoundly batch w w' ↔ MissingFound batch w w')) ∧
    (∀ ids w', scanBatch env config T batch w₀ = (.ok ids, w') →
      (ReadSoundly batch w w' ↔ NewReturned batch w w' ∧ MissingFound batch w w')) ∧
    (∀ e w', reconcileOverlapBatch env config T batch w₀ = (.error e, w') →
      ReadSoundly batch w w') ∧
    ∀ e w', scanBatch env config T batch w₀ = (.error e, w') → MissingFound batch w w' →
      ReadSoundly batch w w' := by
  intro w₀
  have hq : Quiet w.db [] w₀ := ⟨rfl, rfl, rfl⟩
  refine ⟨fun out w' h => ?_, fun ids w' h => ?_, fun e w' h => ?_, fun e w' h hmissing => ?_⟩
  · have hdone := reconcileRange_spec.returns hq h
    refine ⟨fun hs => hdone.reconciled.revoked_iff.mp hs.revoked, fun hm => ?_⟩
    exact ReadSoundly.of_scanned hdone.scanned (hdone.reconciled.revoked_iff.mpr hm)
  · obtain ⟨hrec, hscanned⟩ := scanBatch_spec.returns hq h
    refine ⟨fun hs => ⟨fun n h1 h2 L hL h3 => ?_, hrec.revoked_iff.mp hs.revoked⟩, fun hm => ?_⟩
    · exact hs.advanced n h1 h2 L _ hL hscanned h3 (by exact_mod_cast h2)
    · exact ⟨fun n h1 h2 L _ hL _ h3 _ => hm.1 n h1 h2 L hL h3, hrec.revoked_iff.mpr hm.2⟩
  · obtain ⟨scans, hquiet⟩ := reconcileRange_spec.stops hq h
    exact hquiet.readSoundly
  · rcases scanBatch_spec.stops hq h with ⟨scans, hquiet⟩ | hdone
    · exact hquiet.readSoundly
    · exact ReadSoundly.of_scanned hdone.scanned (hdone.reconciled.revoked_iff.mpr hmissing)

instance (w : World) (h : ℕ) : Decidable (Returned w h) :=
  inferInstanceAs (Decidable (∃ p ∈ w.answers, p.2.returned h = true))

/-- The first batch of a node that returns every block. -/
theorem first_batch_read_soundly :
    let w := serviceAt reorgEnv testConfig 1 "t0" [testAddress] 0
    ∃ ids w', scanBatch reorgEnv testConfig 9 ⟨1, 9⟩ w = (.ok ids, w') ∧
      ReadSoundly ⟨1, 9⟩ w w' := by
  intro w
  have hok : (scanBatch reorgEnv testConfig 9 ⟨1, 9⟩ w).1.toBool = true := by decide +kernel
  have hreturned : ∀ h ≤ 9, 1 ≤ h → Returned (scanBatch reorgEnv testConfig 9 ⟨1, 9⟩ w).2 h := by
    decide +kernel
  have hrows : w.db.receipts.rows = [] := by decide +kernel
  rcases hrun : scanBatch reorgEnv testConfig 9 ⟨1, 9⟩ w with ⟨e | ids, w'⟩
  · rw [hrun] at hok
    cases hok
  · rw [hrun] at hreturned
    refine ⟨ids, w', rfl, ((range_read_soundly_iff reorgEnv testConfig 9 ⟨1, 9⟩ w).2.1 ids w'
      hrun).mpr ⟨fun h h1 h2 _ _ _ => hreturned h h2 h1, fun row hrow => ?_⟩⟩
    rw [hrows] at hrow
    cases hrow

/-- A payment at height 10 under a tip of 10. After that the tip is 12, and the node's streams
end before the first block. -/
def endedStreamsEnv : Env :=
  { scriptedEnv (fun t => if t ≤ 18 then 10 else 12) (fun _ => minedAt 10) fun _ => false with
    compactBlocks t batch := .ok (if t ≤ 18 then (minedAt 10).blocks batch else []) }

/-- The world after the first iteration, with a record of its own. -/
def afterFirstIteration : World :=
  { serviceAt endedStreamsEnv testConfig 1 "t0" [testAddress] 1 with answers := [], scans := [] }

/-- **A range nobody has read.** An empty list revokes the payment in the overlap, and moves
the scanned height from 10 to 12. -/
theorem empty_list_taken_for_a_scanned_range :
    let overlap := reconcileOverlapBatch endedStreamsEnv testConfig 12 ⟨10, 10⟩ afterFirstIteration
    let turn := scanBatch endedStreamsEnv testConfig 12 ⟨11, 12⟩ afterFirstIteration
    (overlap.1.toBool = true ∧ ¬ReadSoundly ⟨10, 10⟩ afterFirstIteration overlap.2) ∧
      turn.1.toBool = true ∧ ¬ReadSoundly ⟨11, 12⟩ afterFirstIteration turn.2 := by
  intro overlap turn
  refine ⟨⟨by decide +kernel, fun h => ?_⟩, by decide +kernel, fun h => ?_⟩
  · have hrevoked : ∃ row ∈ afterFirstIteration.db.receipts.rows, row.receiptState = .active ∧
        (overlap.2.db.row row.receiptUid).map (·.receiptState) = some .revoked ∧
          row.minedHeight = 10 := by
      decide +kernel
    obtain ⟨row, hrow, hactive, hafter, hheight⟩ := hrevoked
    obtain ⟨row', hrow', hstate⟩ := Option.map_eq_some_iff.mp hafter
    have hnone : ¬Returned overlap.2 10 := by decide +kernel
    exact hnone (h.revoked row hrow hactive row' hrow' (by simp [hstate]) 10 le_rfl le_rfl hheight)
  · have hnone : ¬Returned turn.2 11 := by decide +kernel
    exact hnone (h.advanced 11 le_rfl (by decide) 10 12 (by decide +kernel) (by decide +kernel)
      (by decide) (by decide))

end ZcashPayment

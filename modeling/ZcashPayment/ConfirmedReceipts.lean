import ZcashPayment.LedgerRows

/-!
Confirmed receipts and the mempool.

The mempool upsert keys on the uid alone, and what it consults about the row that is there are
mempool rows only. A receipt of the snapshot whose uid is that of an active mined row turns the
row into a mempool row; every other active mined row stays as it is. The stored arrays are
recounted at the tip of the snapshot, so they drop as well where that tip lies below the one they
were computed at.
-/

namespace ZcashPayment

variable {db db' : Db} {tip : ℤ} {finality threshold : ℕ} {now cutoff : Timestamp}
  {receipts : List AttributedScannedReceipt} {r row : ReceiptRow} {txids : List String}
  {revokeMissing : Bool} {a : ℕ}

/-- What a confirmed receipt must keep. -/
structure SameConfirmed (row row' : ReceiptRow) : Prop where
  uid : row'.receiptUid = row.receiptUid
  kind : row'.receiptKind = row.receiptKind
  state : row'.receiptState = row.receiptState
  minedHeight : row'.minedHeight = row.minedHeight
  confirmationDepth : row'.confirmationDepth = row.confirmationDepth
  eligible : row'.eligibleForWebhook = row.eligibleForWebhook
  value : row'.valueZat = row.valueZat

lemma SameConfirmed.refl (row : ReceiptRow) : SameConfirmed row row :=
  ⟨rfl, rfl, rfl, rfl, rfl, rfl, rfl⟩

lemma SameConfirmed.activeMined {row' : ReceiptRow} (h : SameConfirmed row row') :
    isActiveMined row' = isActiveMined row := by
  rw [isActiveMined, h.kind, h.state, isActiveMined]

/-! ### The rows -/

/-- No receipt of the snapshot has the uid of an active mined row. -/
def NoneConfirmed (db : Db) (receipts : List AttributedScannedReceipt) : Prop :=
  ∀ row ∈ db.receipts.rows, isActiveMined row = true → ∀ e ∈ receipts,
    e.receiptUid ≠ row.receiptUid

/-- The active mined rows after a snapshot are the ones that were there, less those whose uid
it lists. -/
lemma mem_activeMined_mempool :
    row ∈ (mempoolPending cutoff txids receipts now threshold revokeMissing
        db).receipts.rows.filter isActiveMined ↔
      row ∈ db.receipts.rows.filter isActiveMined ∧
        ∀ e ∈ receipts, e.receiptUid ≠ row.receiptUid := by
  simp only [List.mem_filter]
  constructor
  · rintro ⟨hrow, ha⟩
    obtain ⟨hold, hu⟩ := activeMined_mempool hrow ha
    exact ⟨⟨hold, ha⟩, hu⟩
  · rintro ⟨⟨hold, ha⟩, hu⟩
    exact ⟨Table.mem_of_find? (find?_mempool_mined hu hold ha), ha⟩

lemma nodup_rows (t : Table ReceiptRow.receiptUid) : t.rows.Nodup := t.nodup.of_map _

lemma perm_activeMined_mempool (h : NoneConfirmed db receipts) :
    ((mempoolPending cutoff txids receipts now threshold revokeMissing
        db).receipts.rows.filter isActiveMined).Perm (db.receipts.rows.filter isActiveMined) := by
  refine (List.perm_ext_iff_of_nodup ((nodup_rows _).filter _) ((nodup_rows _).filter _)).mpr
    fun row => mem_activeMined_mempool.trans ⟨fun hrow => hrow.1, fun hrow => ⟨hrow, ?_⟩⟩
  exact h row (List.mem_filter.mp hrow).1 (List.mem_filter.mp hrow).2

/-! ### The sums from the first confirmation on -/

lemma sumZat_filter (rows : List ReceiptRow) {p q : ReceiptRow → Bool}
    (h : ∀ r, p r = true → q r = true) : sumZat (rows.filter q) p = sumZat rows p := by
  unfold sumZat
  rw [List.filter_filter]
  congr 2
  refine List.filter_congr fun r _ => ?_
  by_cases hp : p r = true
  · simp [hp, h r hp]
  · simp [hp]

lemma sumZat_perm {rows rows' : List ReceiptRow} (h : rows'.Perm rows) (p : ReceiptRow → Bool) :
    sumZat rows' p = sumZat rows p :=
  ((h.filter p).map _).sum_eq

/-- A row counted at depth one is active and mined. -/
lemma activeMined_of_depth {i : ℕ} (hi : 1 ≤ i)
    (h : (counted a r && decide ((i : ℤ) ≤ rowDepth tip r)) = true) : isActiveMined r = true := by
  obtain ⟨hcounted, hdepth⟩ := Bool.and_eq_true_iff.mp h
  have hd : (i : ℤ) ≤ rowDepth tip r := of_decide_eq_true hdepth
  simp only [counted, Bool.and_eq_true, decide_eq_true_eq] at hcounted
  by_cases hk : r.receiptKind = .mined
  · simp [isActiveMined, hk, hcounted.2.1]
  · rw [rowDepth, if_neg hk] at hd
    omega

/-- **Two ledgers with the same active mined rows** give the same sums from depth one on. -/
lemma receivedAtDepth_of_perm {rows rows' : List ReceiptRow}
    (h : (rows'.filter isActiveMined).Perm (rows.filter isActiveMined)) {i : ℕ} (hi : 1 ≤ i) :
    receivedAtDepth rows' a tip i = receivedAtDepth rows a tip i := by
  unfold receivedAtDepth
  rw [← sumZat_filter rows' fun r => activeMined_of_depth hi,
    ← sumZat_filter rows fun r => activeMined_of_depth hi]
  exact sumZat_perm h _

lemma tail_receivedByConfirmationsZat {rows rows' : List ReceiptRow}
    (h : (rows'.filter isActiveMined).Perm (rows.filter isActiveMined)) (n : Option ℕ) :
    (receivedByConfirmationsZat rows' a tip n).map List.tail =
      (receivedByConfirmationsZat rows a tip n).map List.tail := by
  rcases n with _ | n
  · rfl
  · simp only [receivedByConfirmationsZat_eq, Option.map_some, ← List.map_tail]
    congr 1
    refine List.map_congr_left fun i hi => receivedAtDepth_of_perm h ?_
    simp only [List.range_succ_eq_map, List.tail_cons, List.mem_map] at hi
    obtain ⟨j, -, rfl⟩ := hi
    omega

/-! ### The stored arrays -/

/-- What an array says of `i` confirmations; nothing beyond its end. -/
def elementAt (array : Option (List ℤ)) (i : ℕ) : ℤ := (array.getD []).getD i 0

lemma elementAt_tail (array : Option (List ℤ)) (i : ℕ) :
    elementAt array (i + 1) = elementAt (array.map List.tail) i := by
  rcases array with _ | _ | ⟨x, l⟩
  · rfl
  · rfl
  · rfl

lemma elementAt_count (rows : List ReceiptRow) (a : ℕ) (tip : ℤ) (n i : ℕ) :
    elementAt (receivedByConfirmationsZat rows a tip (some n)) i =
      if i ≤ n then receivedAtDepth rows a tip i else 0 := by
  rw [elementAt, receivedByConfirmationsZat_eq, Option.getD_some, List.getD_eq_getElem?_getD,
    List.getElem?_map]
  split_ifs with hi
  · rw [List.getElem?_range (by omega)]
    rfl
  · rw [List.getElem?_eq_none (by simp; omega)]
    rfl

/-- Every array holds the counts at the tip it was computed at. -/
def ArraysCounted (db : Db) : Prop :=
  ∀ t ∈ db.addressTotals.rows, ∀ i, elementAt t.receivedByConfirmations i =
    elementAt (receivedByConfirmationsZat db.receipts.rows t.addressId t.lastComputedTipHeight
      db.storedRequiredConfirmations) i

section counted

variable {owner : ReceiptUid → ℕ} {p : Pending} {label : String} {ids : List ℕ}

/-- **A sound commit keeps the arrays counted.** -/
lemma ArraysCounted.commit (h : ArraysCounted db) (hp : p.Sound owner db)
    (hc : p.commit tip finality now label db = .ok db') : ArraysCounted db' := by
  rw [Pending.commit_ok hc]
  intro t ht i
  obtain ⟨t₀, ht₀, rfl⟩ := List.mem_map.mp ht
  by_cases ha : t₀.addressId ∈ p.affected
  · rw [Pending.retotaled, if_pos ha]
    rfl
  · rw [Pending.retotaled_of_notMem ha]
    exact (h t₀ ht₀ i).trans (congrArg (elementAt · i)
      (receivedByConfirmationsZat_congr (hp.unseen _ ha).symm _ _))

/-- **Every run of the ledger's operations keeps the arrays counted.** -/
lemma ArraysCounted.runLedger (h : ArraysCounted db) (hi : LedgerInv owner finality db)
    (cutoffOf : Timestamp → Except AppError Timestamp) {calls : List (Timestamp × LedgerOp)}
    (hr : ∀ c ∈ calls, OwnedReceipts owner c.2.receipts) :
    ArraysCounted (runLedger cutoffOf finality calls db) := by
  induction calls generalizing db with
  | nil => exact h
  | cons c calls ih =>
    have hc := hr c List.mem_cons_self
    have hrest := fun c' hc' => hr c' (List.mem_cons_of_mem c hc')
    show ArraysCounted (ZcashPayment.runLedger cutoffOf finality calls
      (LedgerOp.step cutoffOf finality db c))
    unfold LedgerOp.step
    rcases hrun : c.2.run cutoffOf finality c.1 db with _ | ⟨ids, db₁⟩
    · exact ih h hi hrest
    · obtain ⟨p, label, hs, -, hcommit⟩ := c.2.run_ok hrun
      exact ih (h.commit (hs owner hi.owned hc) hcommit) (hi.run hc hrun) hrest

lemma startDb_arraysCounted (config : Config) (createdAt : Timestamp)
    (requests : List NewAddress) : ArraysCounted (startDb config createdAt requests) := by
  obtain ⟨hi, hnone⟩ := startDb_inv (fun _ => 0) config 0 createdAt requests
  intro t ht i
  have harray : ∀ t ∈ (startDb config createdAt requests).addressTotals.rows,
      t.receivedByConfirmations = none := by
    refine (issueAll_induction (fun db => ∀ t ∈ db.addressTotals.rows,
      t.receivedByConfirmations = none) ?_ (fun new db a db' hi h => ?_) requests)
    · simp only [ensureServiceMetadata, ensureServiceMetadataRow, Db.fresh, bind, Except.bind,
        pure, Except.pure]
      unfold applyRequiredConfirmations
      split_ifs <;> simp
    · obtain ⟨_, _, rfl⟩ := allocateFreshAddress_ok h
      intro t ht
      rcases List.mem_append.mp ht with ht | ht
      · exact hi t ht
      · rw [List.mem_singleton.mp ht]
  rw [harray t ht, hnone]
  rcases (startDb config createdAt requests).storedRequiredConfirmations with _ | n
  · rfl
  · rw [elementAt_count]
    split_ifs <;> rfl

end counted

/-! ### What a snapshot recounts -/

/-- Whose totals a snapshot recomputes: the address of a mempool receipt it revokes, of one it
brings or changes, or of one that is no longer fresh. -/
def SnapshotTouches (cutoff : Timestamp) (txids : List String)
    (receipts : List AttributedScannedReceipt) (threshold : ℕ) (revokeMissing : Bool) (db : Db)
    (a : ℕ) : Prop :=
  (∃ r ∈ db.receipts.rows, r.addressId = a ∧ revokeMissing = true ∧ leftMempool txids r = true) ∨
  (∃ e ∈ receipts, a ∈ mempoolTouchedBy threshold cutoff
    (priorOf (db.receipts.rows.filter fun r => r.receiptKind = .mempool) e.receiptUid) e) ∨
  ∃ r ∈ db.receipts.rows, r.addressId = a ∧ staleFreshness threshold cutoff r = true ∧
    ∀ e ∈ receipts, e.receiptUid ≠ r.receiptUid

lemma not_stale_written (prior : Option ReceiptRow) (e : AttributedScannedReceipt) :
    staleFreshness threshold cutoff (mempoolUpsertRow threshold cutoff now prior e) = false := by
  simp [staleFreshness, mempoolUpsertRow, mempoolRow]

lemma mem_mempool_affected :
    a ∈ (mempoolPending cutoff txids receipts now threshold revokeMissing db).affected ↔
      SnapshotTouches cutoff txids receipts threshold revokeMissing db a := by
  set existing := db.receipts.rows.filter fun r => r.receiptKind = .mempool with hex
  set new := mempoolNew threshold cutoff now existing
  set left := fun r => revokeMissing && leftMempool txids r with hleft
  set upserted := writeAll new (fun e => mempoolMerged (new e)) (fun _ _ => rfl) receipts
    (revokeWhere db.receipts now left) with hup
  have hup' : upserted = receipts.foldl (upsertMempool threshold cutoff now existing)
      (revokeWhere db.receipts now left) := rfl
  simp only [mempoolPending, SnapshotTouches, ← hex, ← hleft, ← hup', mem_idSet, List.mem_append,
    List.mem_map, List.mem_filter, List.mem_flatMap]
  constructor
  · rintro ((⟨r, ⟨hr, hl⟩, rfl⟩ | htouched) | ⟨r, ⟨hr, hs⟩, rfl⟩)
    · exact Or.inl ⟨r, hr, rfl, Bool.and_eq_true_iff.mp hl⟩
    · exact Or.inr (Or.inl htouched)
    · -- A row that was written has the freshness of the cutoff, a revoked one is not active.
      rcases mem_writeAll new (fun e => mempoolMerged (new e)) (fun _ _ => rfl) hr with
        ⟨h, hes⟩ | ⟨e, -, h⟩
      · obtain ⟨old, hold, heq⟩ := List.mem_map.mp h
        split_ifs at heq with hl
        · simp [← heq, staleFreshness, isActiveMempool, revokedRow] at hs
        · subst heq
          exact Or.inr (Or.inr ⟨old, hold, rfl, hs, hes⟩)
      · have hfresh : staleFreshness threshold cutoff (new e) = false :=
          not_stale_written (priorOf existing e.receiptUid) e
        rcases h with rfl | ⟨old, rfl⟩
        · exact absurd hs (Bool.eq_false_iff.mp hfresh)
        · exact absurd (show staleFreshness threshold cutoff (new e) = true from hs)
            (Bool.eq_false_iff.mp hfresh)
  · rintro (⟨r, hr, rfl, hrev, hl⟩ | htouched | ⟨r, hr, rfl, hs, hes⟩)
    · exact Or.inl (Or.inl ⟨r, ⟨hr, Bool.and_eq_true_iff.mpr ⟨hrev, hl⟩⟩, rfl⟩)
    · exact Or.inl (Or.inr htouched)
    · by_cases hl : left r = true
      · exact Or.inl (Or.inl ⟨r, ⟨hr, hl⟩, rfl⟩)
      · refine Or.inr ⟨r, ⟨Table.mem_of_find? (k := r.receiptUid) ?_, hs⟩, rfl⟩
        rw [hup, find?_writeAll_of_notMem new (fun e => mempoolMerged (new e)) (fun _ _ => rfl) hes,
          find?_revokeWhere, Table.find?_of_mem hr, Option.map_some, if_neg hl]

/-! ### Which arrays drop -/

/-- The stored elements from the first confirmation on are not above the counts at `tip`. -/
def StoredWithin (touched : ℕ → Prop) (tip : ℤ) (db : Db) : Prop :=
  ∀ t ∈ db.addressTotals.rows, touched t.addressId → ∀ i, 1 ≤ i →
    elementAt t.receivedByConfirmations i ≤ elementAt (receivedByConfirmationsZat
      db.receipts.rows t.addressId tip db.storedRequiredConfirmations) i

/-- No counted receipt has fewer confirmations at `tip`, as far as the array counts them, than at
the tip the array was computed at. -/
def NoneShallower (touched : ℕ → Prop) (tip : ℤ) (db : Db) : Prop :=
  ∀ t ∈ db.addressTotals.rows, touched t.addressId →
    ∀ n : ℕ, db.storedRequiredConfirmations = some n → ∀ r ∈ db.receipts.rows,
      counted t.addressId r = true → 0 < r.valueZat →
        min (rowDepth t.lastComputedTipHeight r) n ≤ rowDepth tip r

lemma rowDepth_mono {T T' : ℤ} (h : T ≤ T') (r : ReceiptRow) : rowDepth T r ≤ rowDepth T' r := by
  simp only [rowDepth, depthAt]
  split_ifs <;> omega

/-- **When a recount at another tip lowers an element**: exactly when a receipt it counts has lost
confirmations. -/
lemma receivedAtDepth_le_iff {rows : List ReceiptRow} {T : ℤ} {n : ℕ} :
    (∀ i, 1 ≤ i → i ≤ n → receivedAtDepth rows a T i ≤ receivedAtDepth rows a tip i) ↔
      ∀ r ∈ rows, counted a r = true → 0 < r.valueZat →
        min (rowDepth T r) n ≤ rowDepth tip r := by
  constructor
  · intro hle r hr hcounted hpos
    by_contra hlt
    have h0 := rowDepth_nonneg tip r
    have htip : tip ≤ T := by
      by_contra htip
      have := rowDepth_mono (r := r) (not_le.mp htip).le
      omega
    -- At the depth the receipt has lost, the recount misses its value.
    obtain ⟨i, hi⟩ := Int.eq_ofNat_of_zero_le
      (show (0 : ℤ) ≤ min (rowDepth T r) n from le_min (rowDepth_nonneg T r) (by omega))
    have hdrop : receivedAtDepth rows a tip i < receivedAtDepth rows a T i := by
      refine sumZat_lt (fun r' _ h => ?_) hr (by simp [hcounted]; omega) ?_ hpos
      · simp only [Bool.and_eq_true, decide_eq_true_eq] at h ⊢
        exact ⟨h.1, h.2.trans (rowDepth_mono htip r')⟩
      · simp [hcounted]
        omega
    exact absurd (hle i (by omega) (by omega)) (not_le.mpr hdrop)
  · intro hdepth i h1 hn
    refine sumZat_le_of_pos rows fun r hr hpos h => ?_
    simp only [Bool.and_eq_true, decide_eq_true_eq] at h ⊢
    have := hdepth r hr h.1 hpos
    exact ⟨h.1, by omega⟩

/-- In a ledger whose arrays are counted, a recount stays above them exactly when no receipt has
lost confirmations. -/
lemma storedWithin_iff_noneShallower {touched : ℕ → Prop} (h : ArraysCounted db) :
    StoredWithin touched tip db ↔ NoneShallower touched tip db := by
  refine forall₂_congr fun t ht => forall_congr' fun _ => ?_
  simp only [h t ht]
  rcases db.storedRequiredConfirmations with _ | n
  · simp [receivedByConfirmationsZat]
  · simp only [elementAt_count, Option.some.injEq, forall_eq']
    rw [← receivedAtDepth_le_iff]
    refine forall₂_congr fun i _ => ?_
    by_cases hi : i ≤ n <;> simp [hi]

/-- A snapshot at a tip not below those of the arrays makes no receipt shallower. -/
lemma noneShallower_of_tip {touched : ℕ → Prop}
    (h : ∀ t ∈ db.addressTotals.rows, t.lastComputedTipHeight ≤ tip) :
    NoneShallower touched tip db :=
  fun t ht _ _ _ r _ _ _ => (min_le_left _ _).trans (rowDepth_mono (h t ht) r)

/-- Every active mined row is still there, with all a confirmed receipt must keep. -/
def ConfirmedKept (db db' : Db) : Prop :=
  ∀ row ∈ db.receipts.rows, isActiveMined row = true →
    ∃ row' ∈ db'.receipts.rows, SameConfirmed row row'

/-- No stored element from the first confirmation on drops. -/
def NoElementDrops (db db' : Db) : Prop :=
  ∀ t ∈ db.addressTotals.rows, ∃ t' ∈ db'.addressTotals.rows, t'.addressId = t.addressId ∧
    ∀ i, 1 ≤ i → elementAt t.receivedByConfirmations i ≤ elementAt t'.receivedByConfirmations i

/-- **What a snapshot does to the stored arrays** when it leaves the confirmed receipts alone. -/
lemma noElementDrops_iff {label : String} (hnone : NoneConfirmed db receipts)
    (hc : (mempoolPending cutoff txids receipts now threshold revokeMissing db).commit tip finality
      now label db = .ok db') :
    NoElementDrops db db' ↔
      StoredWithin (SnapshotTouches cutoff txids receipts threshold revokeMissing db) tip db := by
  set p := mempoolPending cutoff txids receipts now threshold revokeMissing db
  have hcount : ∀ a i, 1 ≤ i → elementAt (receivedByConfirmationsZat p.receipts.rows a tip
      db.storedRequiredConfirmations) i = elementAt (receivedByConfirmationsZat db.receipts.rows a
        tip db.storedRequiredConfirmations) i := by
    intro a i hi
    obtain ⟨i, rfl⟩ := Nat.exists_eq_add_of_le' hi
    rw [elementAt_tail, elementAt_tail,
      tail_receivedByConfirmationsZat (perm_activeMined_mempool hnone)]
  have harray : ∀ t, t.addressId ∈ p.affected →
      (p.retotaled tip finality now label db t).receivedByConfirmations =
        receivedByConfirmationsZat p.receipts.rows t.addressId tip
          db.storedRequiredConfirmations := by
    intro t ha
    rw [Pending.retotaled, if_pos ha]
    rfl
  rw [Pending.commit_ok hc]
  constructor
  · intro hdrop t ht htouched i hi
    obtain ⟨t', ht', haddr, hle⟩ := hdrop t ht
    obtain ⟨t₀, ht₀, rfl⟩ := List.mem_map.mp ht'
    rw [Pending.retotaled_addressId] at haddr
    obtain rfl : t₀ = t := Table.eq_of_key ht₀ ht haddr
    have := hle i hi
    rwa [harray t₀ (mem_mempool_affected.mpr htouched), hcount _ i hi] at this
  · intro hwithin t ht
    refine ⟨_, List.mem_map_of_mem ht, Pending.retotaled_addressId t, fun i hi => ?_⟩
    by_cases ha : t.addressId ∈ p.affected
    · rw [harray t ha, hcount _ i hi]
      exact hwithin t ht (mem_mempool_affected.mp ha) i hi
    · rw [Pending.retotaled_of_notMem ha]

lemma confirmedKept_iff {label : String}
    (hc : (mempoolPending cutoff txids receipts now threshold revokeMissing db).commit tip finality
      now label db = .ok db') : ConfirmedKept db db' ↔ NoneConfirmed db receipts := by
  unfold ConfirmedKept
  rw [Pending.commit_receipts hc]
  constructor
  · intro hkeep row hrow ha
    obtain ⟨row', hrow', hsame⟩ := hkeep row hrow ha
    have hu := (activeMined_mempool hrow' (hsame.activeMined.trans ha)).2
    exact fun e he => hsame.uid ▸ hu e he
  · intro hnone row hrow ha
    exact ⟨row, Table.mem_of_find? (find?_mempool_mined (hnone row hrow ha) hrow ha),
      SameConfirmed.refl row⟩

/-- **Which snapshots leave confirmed receipts alone.** A snapshot keeps every active mined row,
and with them what a count at any tip gives from the first confirmation on, exactly when none of
its receipts has the uid of an active mined row. The stored arrays are recounted at the tip of the
snapshot: no element of them drops either exactly when those of the addresses it touches are not
above that count, which in a ledger whose arrays are counted means that no receipt they count has
fewer confirmations there. -/
theorem mempool_keeps_confirmed_iff (cutoffOf : Timestamp → Except AppError Timestamp)
    (txids : List String) (receipts : List AttributedScannedReceipt) (now : Timestamp) (tip : ℤ)
    (finality threshold : ℕ) (revokeMissing : Bool) (db db' : Db) (out : ReceiptRangeReconciliation)
    (h : reconcileMempoolSnapshot cutoffOf txids receipts now tip finality threshold revokeMissing
      db = .ok (out, db')) :
    (ConfirmedKept db db' ∧ (∀ (a : ℕ) (t : ℤ) (n : Option ℕ),
        (receivedByConfirmationsZat db'.receipts.rows a t n).map List.tail =
          (receivedByConfirmationsZat db.receipts.rows a t n).map List.tail) ↔
      NoneConfirmed db receipts) ∧
    ∃ cutoff, cutoffOf now = .ok cutoff ∧
      (ConfirmedKept db db' ∧ NoElementDrops db db' ↔
        NoneConfirmed db receipts ∧
          StoredWithin (SnapshotTouches cutoff txids receipts threshold revokeMissing db) tip db) ∧
      (ArraysCounted db →
        (StoredWithin (SnapshotTouches cutoff txids receipts threshold revokeMissing db) tip db ↔
          NoneShallower (SnapshotTouches cutoff txids receipts threshold revokeMissing db) tip
            db)) := by
  obtain ⟨cutoff, hcutoff, -, hc⟩ := mempool_ok h
  refine ⟨⟨fun hkeep => (confirmedKept_iff hc).mp hkeep.1, fun hnone =>
    ⟨(confirmedKept_iff hc).mpr hnone, fun a t n => ?_⟩⟩, cutoff, hcutoff, ?_,
    storedWithin_iff_noneShallower⟩
  · rw [Pending.commit_receipts hc]
    exact tail_receivedByConfirmationsZat (perm_activeMined_mempool hnone) n
  · rw [confirmedKept_iff hc]
    exact and_congr_right fun hnone => noElementDrops_iff hnone hc

/-- A ledger with one mined receipt of 5, at depth 3 of the tip. -/
def confirmedDb : Db :=
  runLedger .ok 2 [("t1", .applyAttributedReceipts [minedReceipt 1 "aa" 5 8 3 true] 10)]
    (startDb testConfig "t0" [testAddress])

/-- A receipt as a mempool scan hands it over. -/
def mempoolReceipt (addressId : ℕ) (txid : String) (value : ℕ) : AttributedScannedReceipt :=
  { minedReceipt addressId txid value 0 0 true with receiptKind := .mempool }

lemma confirmedDb_arraysCounted : ArraysCounted confirmedDb :=
  (startDb_arraysCounted testConfig "t0" [testAddress]).runLedger
    (startDb_inv (fun _ => 1) testConfig 2 "t0" [testAddress]).1 .ok
    (by simp [OwnedReceipts, LedgerOp.receipts, minedReceipt])

/-- A snapshot with another transaction leaves the confirmed receipt and its stored array alone. -/
theorem mempool_keeps_confirmed_of_another_payment :
    ∃ out db', reconcileMempoolSnapshot .ok ["bb"] [mempoolReceipt 1 "bb" 7] "t2" 10 2 0 true
        confirmedDb = .ok (out, db') ∧
      (∃ row' ∈ db'.receipts.rows, row'.receiptUid = ⟨"aa", .orchard, 0⟩ ∧
        row'.receiptKind = .mined) ∧
      ∃ t' ∈ db'.addressTotals.rows, t'.addressId = 1 ∧ 5 ≤ elementAt t'.receivedByConfirmations 1 ∧
        5 ≤ elementAt t'.receivedByConfirmations 2 := by
  have hok : (reconcileMempoolSnapshot .ok ["bb"] [mempoolReceipt 1 "bb" 7] "t2" 10 2 0 true
      confirmedDb).toOption.isSome = true := by decide
  rcases h : reconcileMempoolSnapshot .ok ["bb"] [mempoolReceipt 1 "bb" 7] "t2" 10 2 0 true
    confirmedDb with e | ⟨out, db'⟩
  · rw [h] at hok
    cases hok
  · have hnone : NoneConfirmed confirmedDb [mempoolReceipt 1 "bb" 7] := by
      unfold NoneConfirmed
      decide
    obtain ⟨-, cutoff, -, hstored, hcounted⟩ := mempool_keeps_confirmed_iff .ok ["bb"]
      [mempoolReceipt 1 "bb" 7] "t2" 10 2 0 true confirmedDb db' out h
    obtain ⟨hkeep, hdrop⟩ := hstored.mpr ⟨hnone, (hcounted confirmedDb_arraysCounted).mpr
      (noneShallower_of_tip (by decide))⟩
    obtain ⟨row, hrow, ha, hu⟩ : ∃ row ∈ confirmedDb.receipts.rows, isActiveMined row = true ∧
        row.receiptUid = ⟨"aa", .orchard, 0⟩ := by decide
    obtain ⟨row', hrow', hsame⟩ := hkeep row hrow ha
    have hk : row.receiptKind = .mined := by
      simp only [isActiveMined, Bool.and_eq_true, decide_eq_true_eq] at ha
      exact ha.1
    obtain ⟨t, ht, haddr, h1, h2⟩ : ∃ t ∈ confirmedDb.addressTotals.rows, t.addressId = 1 ∧
        elementAt t.receivedByConfirmations 1 = 5 ∧
        elementAt t.receivedByConfirmations 2 = 5 := by decide
    obtain ⟨t', ht', haddr', hle⟩ := hdrop t ht
    exact ⟨out, db', rfl, ⟨row', hrow', hsame.uid.trans hu, hsame.kind.trans hk⟩, t', ht',
      haddr'.trans haddr, h1 ▸ hle 1 le_rfl, h2 ▸ hle 2 (by decide)⟩

/-- **A confirmed receipt goes back to the mempool.** A node that lags behind the scanned block
still lists its transaction; the row becomes a mempool row, and the stored array drops from
`[5, 5, 5]` to `[5, 0, 0]`. A node that lags without listing it still lowers the array by the
confirmations it lacks. -/
theorem confirmed_receipt_demoted_by_a_lagging_node :
    (confirmedDb.receipts.find? ⟨"aa", .orchard, 0⟩).any isActiveMined = true ∧
    (confirmedDb.addressTotals.find? 1).map (·.receivedByConfirmations) =
      some (some [5, 5, 5]) ∧
    (reconcileMempoolSnapshot .ok ["aa"] [mempoolReceipt 1 "aa" 5] "2025-12-31T00:00:00Z" 7 2 0
      false confirmedDb).toOption.any (fun r =>
        (r.2.receipts.find? ⟨"aa", .orchard, 0⟩).any (fun row =>
          row.receiptKind = .mempool && row.receiptState = .active && row.minedHeight = 0) &&
        (r.2.addressTotals.find? 1).map (·.receivedByConfirmations) =
          some (some [5, 0, 0])) = true ∧
    (reconcileMempoolSnapshot .ok ["bb"] [mempoolReceipt 1 "bb" 7] "2025-12-31T00:00:00Z" 8 2 0
      false confirmedDb).toOption.any (fun r =>
        (r.2.receipts.find? ⟨"aa", .orchard, 0⟩).any isActiveMined &&
        (r.2.addressTotals.find? 1).map (·.receivedByConfirmations) =
          some (some [12, 5, 0])) = true := by
  decide

end ZcashPayment

import ZcashPayment.Migration

/-!
What opening the app database keeps.

The steps only ever append: columns with a default, receivers with a new id. What can stop
them is a constraint, and the one statement of the batch that names a column which only a
later step would add.
-/

namespace ZcashPayment

variable {M T D : Type} {f f' g : AppFile M T D} {rows : List ReceiverRow}

/-- A file that satisfies the constraints of its own schema. -/
structure AppFile.WellFormed (f : AppFile M T D) : Prop where
  receivers : ReceiversUnique f.addressReceivers
  receiptIds : (f.addressReceiptsRecent.rows.map (·.1.receiptId)).Nodup
  receiptUids : (f.addressReceiptsRecent.rows.map (·.1.receiptUid)).Nodup
  columns : f.addressReceiptsRecent.columns ⊆ ["receipt_kind", "first_observed_at"]
  index : f.mempoolTxidIndex = true → "receipt_kind" ∈ f.addressReceiptsRecent.columns
  firstObserved : "first_observed_at" ∈ f.addressReceiptsRecent.columns →
    ∀ r ∈ f.addressReceiptsRecent.rows, r.2 "first_observed_at" ≠ .null

/-! ### The copied receivers -/

lemma mem_orchardOnly {r : ReceiverRow} : r ∈ orchardOnly rows ↔
    r ∈ rows ∧ r.pool = .orchard ∧ ∀ s ∈ rows, s.addressId = r.addressId → s.pool ≠ .ironwood := by
  simp [orchardOnly]

/-- The ironwood receiver made of an orchard one: all but the id and the pool. -/
def CopyOf (r copy : ReceiverRow) : Prop :=
  copy = { r with receiverId := copy.receiverId, pool := .ironwood }

lemma ironwoodCopies_copyOf (rows : List ReceiverRow) :
    List.Forall₂ CopyOf (orchardOnly rows) (ironwoodCopies rows) := by
  rw [ironwoodCopies, List.forall₂_iff_get]
  refine ⟨by simp, fun i h1 h2 => ?_⟩
  simp [CopyOf]

lemma ironwoodCopies_map {κ : Type} (k : ReceiverRow → κ)
    (hk : ∀ r copy, CopyOf r copy → k copy = k r) (rows : List ReceiverRow) :
    (ironwoodCopies rows).map (fun r => (r.pool, k r)) =
      (orchardOnly rows).map fun r => (Pool.ironwood, k r) := by
  have h := ironwoodCopies_copyOf rows
  generalize ironwoodCopies rows = copies at h ⊢
  generalize orchardOnly rows = originals at h ⊢
  induction h with
  | nil => rfl
  | cons hr _ ih =>
    rw [List.map_cons, List.map_cons, ih, hk _ _ hr]
    rw [show _ = _ from hr]

/-- **The keys after the copy**: the copies agree with nothing but a row that was ironwood's. -/
lemma uniquePerPool_copies {κ : Type} {k : ReceiverRow → κ}
    (hk : ∀ r copy, CopyOf r copy → k copy = k r) (h : UniquePerPool k rows) :
    UniquePerPool k (rows ++ ironwoodCopies rows) ↔
      ∀ r ∈ orchardOnly rows, ∀ s ∈ rows, s.pool = .ironwood → k s ≠ k r := by
  have hcopies : ((orchardOnly rows).map fun r => (Pool.ironwood, k r)).Nodup := by
    have horchard : ((orchardOnly rows).map fun r => (r.pool, k r)).Nodup :=
      h.sublist (List.filter_sublist.map _)
    refine List.Nodup.of_map (fun p => (Pool.orchard, p.2)) ?_
    rw [List.map_map]
    convert horchard using 1
    refine List.map_congr_left fun r hr => ?_
    simp [(mem_orchardOnly.mp hr).2.1]
  rw [UniquePerPool, List.map_append, ironwoodCopies_map k hk, List.nodup_append]
  constructor
  · rintro ⟨-, -, hdisjoint⟩ r hr s hs hpool heq
    exact hdisjoint (s.pool, k s) (List.mem_map_of_mem hs) (Pool.ironwood, k r)
      (List.mem_map_of_mem hr) (by rw [hpool, heq])
  · intro hne
    refine ⟨h, hcopies, fun p hp q hq heq => ?_⟩
    obtain ⟨s, hs, rfl⟩ := List.mem_map.mp hp
    obtain ⟨r, hr, rfl⟩ := List.mem_map.mp hq
    obtain ⟨hpool, hkey⟩ := Prod.mk.inj heq
    exact hne r hr s hs hpool hkey

lemma receiverIds_copies (h : (rows.map (·.receiverId)).Nodup) :
    ((rows ++ ironwoodCopies rows).map (·.receiverId)).Nodup := by
  rw [List.map_append, List.nodup_append]
  refine ⟨h, ?_, fun i hi j hj heq => ?_⟩
  · have hids : (ironwoodCopies rows).map (·.receiverId) =
        (List.range (orchardOnly rows).length).map (nextRowId (rows.map (·.receiverId)) + ·) := by
      rw [List.range_eq_range', ← List.zipIdx_map_snd, List.map_map, ironwoodCopies, List.map_map]
      rfl
    rw [hids]
    exact List.nodup_range.map fun _ _ => Nat.add_left_cancel
  · obtain ⟨copy, hcopy, rfl⟩ := List.mem_map.mp hj
    obtain ⟨⟨r, n⟩, -, rfl⟩ := List.mem_map.mp hcopy
    have := lt_nextRowId hi
    simp only at heq
    omega

/-- No receiver that is copied has the key of a receiver that is ironwood's already. -/
def NoIronwoodTwin {κ : Type} (k : ReceiverRow → κ) (rows : List ReceiverRow) : Prop :=
  ∀ r ∈ orchardOnly rows, ∀ s ∈ rows, s.pool = .ironwood → k s ≠ k r

lemma receiversUnique_copies (h : ReceiversUnique rows) :
    ReceiversUnique (rows ++ ironwoodCopies rows) ↔
      NoIronwoodTwin (·.receiverEncoding) rows ∧ NoIronwoodTwin (·.receiverFingerprint) rows := by
  obtain ⟨hid, haddress, hencoding, hfingerprint⟩ := h
  have hself : NoIronwoodTwin (·.addressId) rows := fun r hr s hs hpool heq =>
    (mem_orchardOnly.mp hr).2.2 s hs heq hpool
  rw [ReceiversUnique,
    uniquePerPool_copies (fun r copy h => by rw [show copy = _ from h]) haddress,
    uniquePerPool_copies (fun r copy h => by rw [show copy = _ from h]) hencoding,
    uniquePerPool_copies (fun r copy h => by rw [show copy = _ from h]) hfingerprint]
  exact ⟨fun ⟨_, _, h⟩ => h, fun h => ⟨receiverIds_copies hid, hself, h⟩⟩

/-- After the copy there is nothing left to copy. -/
lemma orchardOnly_copies (rows : List ReceiverRow) :
    orchardOnly (rows ++ ironwoodCopies rows) = [] := by
  rw [List.eq_nil_iff_forall_not_mem]
  intro r hr
  obtain ⟨hmem, hpool, hnone⟩ := mem_orchardOnly.mp hr
  have hcopied : ∀ r ∈ orchardOnly rows, ∃ copy ∈ ironwoodCopies rows, CopyOf r copy := by
    have h := ironwoodCopies_copyOf rows
    generalize ironwoodCopies rows = copies at h ⊢
    generalize orchardOnly rows = originals at h ⊢
    induction h with
    | nil => simp
    | cons hr _ ih =>
      intro r hmem
      rcases List.mem_cons.mp hmem with rfl | hmem
      · exact ⟨_, List.mem_cons_self, hr⟩
      · obtain ⟨copy, hcopy, hof⟩ := ih r hmem
        exact ⟨copy, List.mem_cons_of_mem _ hcopy, hof⟩
  have hnot : r ∉ ironwoodCopies rows := by
    intro h
    obtain ⟨p, -, rfl⟩ := List.mem_map.mp h
    cases hpool
  have horiginal : r ∈ orchardOnly rows :=
    mem_orchardOnly.mpr ⟨(List.mem_append.mp hmem).resolve_right hnot, hpool,
      fun s hs => hnone s (List.mem_append_left _ hs)⟩
  obtain ⟨copy, hcopy, hof⟩ := hcopied r horiginal
  refine hnone copy (List.mem_append_right _ hcopy) ?_ ?_ <;> rw [show copy = _ from hof]

/-! ### The columns of mempool receipts -/

/-- The new column takes the other time of its row. -/
lemma fillFirstObserved_addColumn (t : SqlTable StoredReceipt) :
    fillFirstObserved (t.addColumn "first_observed_at" (.text "")) =
      ⟨t.columns ++ ["first_observed_at"], t.rows.map fun r =>
        (r.1, Function.update r.2 "first_observed_at" (.text r.1.observedAt))⟩ := by
  simp [fillFirstObserved, SqlTable.addColumn, Function.comp_def]

variable (f)

/-- The receipts after the second step. -/
def observedReceipts : SqlTable StoredReceipt := (ensureMempoolColumns f).addressReceiptsRecent

variable {f}

lemma observedReceipts_extends : f.addressReceiptsRecent.Extends (observedReceipts f) := by
  refine (SqlTable.ensureColumn_extends _ "receipt_kind" (.text "mined")).trans ?_
  simp only [observedReceipts, ensureMempoolColumns]
  split_ifs with h
  · exact SqlTable.Extends.refl _
  · rw [fillFirstObserved_addColumn]
    exact SqlTable.extends_of_map (List.subset_append_left _ _) fun r _ c hc => by
      rw [Function.update_of_ne (ne_of_mem_of_not_mem hc h)]

lemma mem_observedReceipts_columns :
    "receipt_kind" ∈ (observedReceipts f).columns ∧
      "first_observed_at" ∈ (observedReceipts f).columns := by
  simp only [observedReceipts, ensureMempoolColumns]
  split_ifs with h
  · exact ⟨SqlTable.mem_ensureColumn, h⟩
  · rw [fillFirstObserved_addColumn]
    exact ⟨List.mem_append_left _ SqlTable.mem_ensureColumn,
      List.mem_append_right _ (List.mem_singleton_self _)⟩

lemma observedReceipts_of_mem (hk : "receipt_kind" ∈ f.addressReceiptsRecent.columns)
    (ho : "first_observed_at" ∈ f.addressReceiptsRecent.columns) :
    observedReceipts f = f.addressReceiptsRecent := by
  simp only [observedReceipts, ensureMempoolColumns, SqlTable.ensureColumn_of_mem hk, ho, if_true]

lemma observedReceipts_columns_subset
    (h : f.addressReceiptsRecent.columns ⊆ ["receipt_kind", "first_observed_at"]) :
    (observedReceipts f).columns ⊆ ["receipt_kind", "first_observed_at"] := by
  have hensure : (f.addressReceiptsRecent.ensureColumn "receipt_kind" (.text "mined")).columns ⊆
      ["receipt_kind", "first_observed_at"] := by
    unfold SqlTable.ensureColumn
    split_ifs
    · exact h
    · simpa [SqlTable.addColumn] using h
  simp only [observedReceipts, ensureMempoolColumns]
  split_ifs
  · exact hensure
  · rw [fillFirstObserved_addColumn]
    simpa using hensure

/-- A missing time of first observation becomes the time of observation. -/
lemma observedReceipts_first (h : "first_observed_at" ∉ f.addressReceiptsRecent.columns) :
    ∀ r ∈ (observedReceipts f).rows, r.2 "first_observed_at" = .text r.1.observedAt := by
  have hensure : "first_observed_at" ∉
      (f.addressReceiptsRecent.ensureColumn "receipt_kind" (.text "mined")).columns := by
    unfold SqlTable.ensureColumn
    split_ifs
    · exact h
    · simpa [SqlTable.addColumn] using h
  simp only [observedReceipts, ensureMempoolColumns, hensure, if_false]
  rw [fillFirstObserved_addColumn]
  simp only [List.mem_map]
  rintro _ ⟨r, hr, rfl⟩
  simp

/-! ### The whole upgrade -/

/-- What the constraints of the current schema ask of the old rows. -/
structure Upgradable (f : AppFile M T D) : Prop where
  kindColumn : "receipt_kind" ∈ f.addressReceiptsRecent.columns
  kinds : f.receiptsIronwood = true ∨
    ∀ r ∈ f.addressReceiptsRecent.rows, r.2 "receipt_kind" ∈ receiptKinds
  encodings : NoIronwoodTwin (·.receiverEncoding) f.addressReceivers
  fingerprints : NoIronwoodTwin (·.receiverFingerprint) f.addressReceivers

variable (f)

/-- The receipts after the third step. -/
def migratedReceipts : SqlTable StoredReceipt :=
  if f.receiptsIronwood then observedReceipts f
  else (observedReceipts f).copy ["receipt_kind", "first_observed_at"]

/-- The file after all steps. -/
def migrated : AppFile M T D :=
  ensureReceivedByConfirmationsColumns (raiseSchemaVersion { f with
    addressReceivers := f.addressReceivers ++ ironwoodCopies f.addressReceivers
    receiversIronwood := true
    addressReceiptsRecent := migratedReceipts f
    receiptsIronwood := true
    mempoolTxidIndex := true })

variable {f}

lemma migratedReceipts_extends (hf : f.WellFormed) :
    f.addressReceiptsRecent.Extends (migratedReceipts f) := by
  refine observedReceipts_extends.trans ?_
  unfold migratedReceipts
  split_ifs
  · exact SqlTable.Extends.refl _
  · exact SqlTable.copy_extends (observedReceipts_columns_subset hf.columns)

lemma migratedReceipts_first
    (h : "first_observed_at" ∉ f.addressReceiptsRecent.columns) :
    ∀ r ∈ (migratedReceipts f).rows, r.2 "first_observed_at" = .text r.1.observedAt := by
  have hfirst := observedReceipts_first h
  unfold migratedReceipts
  split_ifs
  · exact hfirst
  · simp only [SqlTable.copy, List.mem_map]
    rintro _ ⟨r, hr, rfl⟩
    simpa using hfirst r hr

lemma migratedReceipts_columns (hf : f.WellFormed) :
    (migratedReceipts f).columns ⊆ ["receipt_kind", "first_observed_at"] ∧
      "receipt_kind" ∈ (migratedReceipts f).columns ∧
      "first_observed_at" ∈ (migratedReceipts f).columns := by
  unfold migratedReceipts
  split_ifs
  · exact ⟨observedReceipts_columns_subset hf.columns, mem_observedReceipts_columns⟩
  · exact ⟨fun _ h => h, by simp [SqlTable.copy], by simp [SqlTable.copy]⟩

/-- **The rebuild of the receipts** accepts the rows exactly when their kinds are known. -/
lemma receiptsSound_copy (hf : f.WellFormed)
    (hk : "receipt_kind" ∈ f.addressReceiptsRecent.columns) :
    ReceiptsSound ((observedReceipts f).copy ["receipt_kind", "first_observed_at"]).rows ↔
      ∀ r ∈ f.addressReceiptsRecent.rows, r.2 "receipt_kind" ∈ receiptKinds := by
  have hcopy : (observedReceipts f).Extends
      ((observedReceipts f).copy ["receipt_kind", "first_observed_at"]) :=
    SqlTable.copy_extends (observedReceipts_columns_subset hf.columns)
  have hall := observedReceipts_extends.trans hcopy
  have hmap : ∀ {κ : Type} (k : StoredReceipt → κ),
      ((observedReceipts f).copy ["receipt_kind", "first_observed_at"]).rows.map (fun r => k r.1) =
        f.addressReceiptsRecent.rows.map fun r => k r.1 := by
    intro κ k
    have h := congrArg (List.map k) hall.map_fst
    simpa only [List.map_map, Function.comp_def] using h
  have hfirst : ∀ r ∈ ((observedReceipts f).copy ["receipt_kind", "first_observed_at"]).rows,
      r.2 "first_observed_at" ≠ .null := by
    by_cases h : "first_observed_at" ∈ f.addressReceiptsRecent.columns
    · exact (hall.forall_column h (p := (· ≠ .null))).mpr (hf.firstObserved h)
    · refine (hcopy.forall_column mem_observedReceipts_columns.2 (p := (· ≠ .null))).mpr
        fun r hr => ?_
      rw [observedReceipts_first h r hr]
      simp
  rw [ReceiptsSound, hmap (·.receiptId), hmap (·.receiptUid),
    hall.forall_column hk (p := (· ∈ receiptKinds))]
  exact ⟨fun h => h.2.2.1, fun h => ⟨hf.receiptIds, hf.receiptUids, h, hfirst⟩⟩

/-- The file between the second step and the third. -/
def observed (f : AppFile M T D) : AppFile M T D :=
  { f with addressReceiptsRecent := observedReceipts f, mempoolTxidIndex := true }

lemma rebuildReceivers_observed (hf : f.WellFormed) :
    rebuildReceivers (observed f) = .ok { observed f with receiversIronwood := true } := by
  unfold rebuildReceivers
  split_ifs with h h'
  · rw [← show (observed f).receiversIronwood = true from h]
  · rfl
  · exact absurd hf.receivers h'

lemma rebuildReceipts_observed (hf : f.WellFormed)
    (hk : "receipt_kind" ∈ f.addressReceiptsRecent.columns) {b : Bool}
    (hkinds : f.receiptsIronwood = true ∨
      ∀ r ∈ f.addressReceiptsRecent.rows, r.2 "receipt_kind" ∈ receiptKinds) :
    rebuildReceipts { observed f with receiversIronwood := b } =
      .ok { observed f with
        receiversIronwood := b
        addressReceiptsRecent := migratedReceipts f
        receiptsIronwood := true } := by
  unfold rebuildReceipts migratedReceipts
  by_cases h : f.receiptsIronwood = true
  · simp [observed, h]
  · have hsound := (receiptsSound_copy hf hk).mpr (hkinds.resolve_left h)
    simp [observed, h, hsound]

lemma copyOrchardReceiversToIronwood_ok
    (h : ReceiversUnique (f.addressReceivers ++ ironwoodCopies f.addressReceivers)) :
    copyOrchardReceiversToIronwood f =
      .ok { f with addressReceivers := f.addressReceivers ++ ironwoodCopies f.addressReceivers } :=
  if_pos h

lemma copyOrchardReceiversToIronwood_error
    (h : ¬ReceiversUnique (f.addressReceivers ++ ironwoodCopies f.addressReceivers)) :
    copyOrchardReceiversToIronwood f = .error (constraintFailed "address_receivers") :=
  if_neg h

lemma rebuildReceipts_observed_error (hf : f.WellFormed)
    (hk : "receipt_kind" ∈ f.addressReceiptsRecent.columns) {b : Bool}
    (hiron : ¬f.receiptsIronwood = true)
    (hkinds : ¬∀ r ∈ f.addressReceiptsRecent.rows, r.2 "receipt_kind" ∈ receiptKinds) :
    rebuildReceipts { observed f with receiversIronwood := b } =
      .error (constraintFailed "address_receipts_recent") := by
  have hsound := (receiptsSound_copy hf hk).not.mpr hkinds
  simp [rebuildReceipts, observed, hiron, hsound]

/-- **The third step** on an upgradable file. -/
lemma ensureIronwoodPoolSupport_ok (hf : f.WellFormed) (h : Upgradable f) :
    ensureIronwoodPoolSupport (observed f) = .ok (raiseSchemaVersion { f with
      addressReceivers := f.addressReceivers ++ ironwoodCopies f.addressReceivers
      receiversIronwood := true
      addressReceiptsRecent := migratedReceipts f
      receiptsIronwood := true
      mempoolTxidIndex := true }) := by
  have hunique := (receiversUnique_copies hf.receivers).mpr ⟨h.encodings, h.fingerprints⟩
  rw [ensureIronwoodPoolSupport, rebuildReceivers_observed hf]
  change (rebuildReceipts _ >>= _) = _
  rw [rebuildReceipts_observed hf h.kindColumn h.kinds]
  change (copyOrchardReceiversToIronwood _ >>= _) = _
  rw [copyOrchardReceiversToIronwood_ok (by exact hunique)]
  rfl

lemma ensureIronwoodPoolSupport_error (hf : f.WellFormed)
    (hk : "receipt_kind" ∈ f.addressReceiptsRecent.columns) (h : ¬Upgradable f) :
    ∃ e, ensureIronwoodPoolSupport (observed f) = .error e := by
  rw [ensureIronwoodPoolSupport, rebuildReceivers_observed hf]
  change ∃ e, (rebuildReceipts _ >>= _) = _
  by_cases hkinds : f.receiptsIronwood = true ∨
      ∀ r ∈ f.addressReceiptsRecent.rows, r.2 "receipt_kind" ∈ receiptKinds
  · have hunique : ¬ReceiversUnique (f.addressReceivers ++ ironwoodCopies f.addressReceivers) :=
      fun hu => h ⟨hk, hkinds, ((receiversUnique_copies hf.receivers).mp hu).1,
        ((receiversUnique_copies hf.receivers).mp hu).2⟩
    rw [rebuildReceipts_observed hf hk hkinds]
    change ∃ e, (copyOrchardReceiversToIronwood _ >>= _) = _
    rw [copyOrchardReceiversToIronwood_error (by exact hunique)]
    exact ⟨_, rfl⟩
  · rw [not_or] at hkinds
    rw [rebuildReceipts_observed_error hf hk hkinds.1 hkinds.2]
    exact ⟨_, rfl⟩

/-- **Opening succeeds** exactly on an upgradable file, and leaves the migrated one. -/
lemma initializeSchema_ok_iff (hf : f.WellFormed) :
    initializeSchema f = (f', .ok ()) ↔ Upgradable f ∧ f' = migrated f := by
  have hsecond : ensureMempoolColumns { f with mempoolTxidIndex := true } = observed f := rfl
  by_cases hk : "receipt_kind" ∈ f.addressReceiptsRecent.columns
  · have hbatch : createTables f = .ok { f with mempoolTxidIndex := true } := by
      simp [createTables, hk]
    by_cases h : Upgradable f
    · simp only [initializeSchema, hbatch, hsecond, ensureIronwoodPoolSupport_ok hf h,
        Prod.mk.injEq, and_true, h, true_and]
      exact eq_comm
    · obtain ⟨e, he⟩ := ensureIronwoodPoolSupport_error hf hk h
      simp [initializeSchema, hbatch, hsecond, he, h]
  · have hindex : f.mempoolTxidIndex = false := by
      rw [← Bool.not_eq_true]
      exact fun h => hk (hf.index h)
    have hbatch : createTables f = .error noSuchColumn := by
      simp [createTables, hindex, hk]
    simp only [initializeSchema, hbatch, Prod.mk.injEq, reduceCtorEq, and_false, false_iff, not_and]
    exact fun h => absurd h.kindColumn hk

/-! ### Lossless, and final -/

/-- The rows of the new file are those of the old one, and the copied receivers. -/
structure Lossless (f f' : AppFile M T D) : Prop where
  receipts : f.addressReceiptsRecent.Extends f'.addressReceiptsRecent
  kind : "receipt_kind" ∉ f.addressReceiptsRecent.columns →
    ∀ r ∈ f'.addressReceiptsRecent.rows, r.2 "receipt_kind" = .text "mined"
  firstObserved : "first_observed_at" ∉ f.addressReceiptsRecent.columns →
    ∀ r ∈ f'.addressReceiptsRecent.rows, r.2 "first_observed_at" = .text r.1.observedAt
  receivers : ∃ copies, f'.addressReceivers = f.addressReceivers ++ copies ∧
    List.Forall₂ CopyOf (orchardOnly f.addressReceivers) copies ∧
    (f'.addressReceivers.map (·.receiverId)).Nodup
  metadata : f.serviceMetadata.Extends f'.serviceMetadata
  totals : f.addressTotals.Extends f'.addressTotals
  deliveries : f.webhookDeliveries.Extends f'.webhookDeliveries
  required : "required_confirmations" ∉ f.serviceMetadata.columns →
    ∀ r ∈ f'.serviceMetadata.rows, r.2 "required_confirmations" = .null
  received : ∀ c ∈ ["received_by_confirmations", "last_notified_by_confirmations"],
    c ∉ f.addressTotals.columns → ∀ r ∈ f'.addressTotals.rows, r.2 c = .null
  delivered : "received_by_confirmations" ∉ f.webhookDeliveries.columns →
    ∀ r ∈ f'.webhookDeliveries.rows, r.2 "received_by_confirmations" = .null

lemma migrated_lossless (hf : f.WellFormed) (h : Upgradable f) : Lossless f (migrated f) := by
  have hcopies := (receiversUnique_copies hf.receivers).mpr ⟨h.encodings, h.fingerprints⟩
  have htotals := (SqlTable.ensureColumn_extends f.addressTotals "received_by_confirmations"
    .null).trans (SqlTable.ensureColumn_extends _ "last_notified_by_confirmations" .null)
  refine ⟨migratedReceipts_extends hf, fun hk => absurd h.kindColumn hk, fun hfirst => ?_,
    ⟨_, rfl, ironwoodCopies_copyOf _, hcopies.1⟩, SqlTable.ensureColumn_extends _ _ _, htotals,
    SqlTable.ensureColumn_extends _ _ _, SqlTable.ensureColumn_default, ?_,
    SqlTable.ensureColumn_default⟩
  · exact migratedReceipts_first hfirst
  · intro c hc hnot
    simp only [List.mem_cons, List.not_mem_nil, or_false] at hc
    rcases hc with rfl | rfl
    · exact ((SqlTable.ensureColumn_extends _ _ _).forall_column SqlTable.mem_ensureColumn
        (p := (· = .null))).mpr (SqlTable.ensureColumn_default hnot)
    · have hfirst : "last_notified_by_confirmations" ∉
          (f.addressTotals.ensureColumn "received_by_confirmations" .null).columns := by
        unfold SqlTable.ensureColumn
        split_ifs
        · exact hnot
        · simpa [SqlTable.addColumn] using hnot
      exact SqlTable.ensureColumn_default hfirst

lemma raiseSchemaVersion_idem (v : Option ℤ) :
    (v.map fun v => if v < currentSchemaVersion then currentSchemaVersion else v).map
      (fun v => if v < currentSchemaVersion then currentSchemaVersion else v) =
    v.map fun v => if v < currentSchemaVersion then currentSchemaVersion else v := by
  rcases v with _ | v
  · rfl
  · simp only [Option.map_some]
    split_ifs <;> simp_all

/-- A migrated file satisfies its own constraints, and the current ones. -/
lemma migrated_wellFormed (hf : f.WellFormed) (h : Upgradable f) : (migrated f).WellFormed := by
  have hext := migratedReceipts_extends hf
  have hmap : ∀ {κ : Type} (k : StoredReceipt → κ),
      (migratedReceipts f).rows.map (fun r => k r.1) =
        f.addressReceiptsRecent.rows.map fun r => k r.1 := by
    intro κ k
    have h := congrArg (List.map k) hext.map_fst
    simpa only [List.map_map, Function.comp_def] using h
  refine ⟨(receiversUnique_copies hf.receivers).mpr ⟨h.encodings, h.fingerprints⟩, ?_, ?_,
    (migratedReceipts_columns hf).1, fun _ => (migratedReceipts_columns hf).2.1, fun _ => ?_⟩
  · exact (hmap (·.receiptId)).symm ▸ hf.receiptIds
  · exact (hmap (·.receiptUid)).symm ▸ hf.receiptUids
  · by_cases hfirst : "first_observed_at" ∈ f.addressReceiptsRecent.columns
    · exact (hext.forall_column hfirst (p := (· ≠ .null))).mpr (hf.firstObserved hfirst)
    · intro r hr
      rw [migratedReceipts_first hfirst r hr]
      simp

/-- **Opening again** has nothing to do. -/
lemma migrated_again (hf : f.WellFormed) : Upgradable (migrated f) ∧
    migrated (migrated f) = migrated f := by
  have hcopied := orchardOnly_copies f.addressReceivers
  have hnone : ∀ {κ : Type} (k : ReceiverRow → κ), NoIronwoodTwin k (migrated f).addressReceivers :=
    fun k r hr => absurd (hcopied ▸ hr) List.not_mem_nil
  refine ⟨⟨(migratedReceipts_columns hf).2.1, Or.inl rfl, hnone _, hnone _⟩, ?_⟩
  have hcopies : (migrated f).addressReceivers ++ ironwoodCopies (migrated f).addressReceivers =
      (migrated f).addressReceivers := by
    rw [ironwoodCopies, show orchardOnly (migrated f).addressReceivers = [] from hcopied]
    simp
  have hreceipts : migratedReceipts (migrated f) = (migrated f).addressReceiptsRecent :=
    observedReceipts_of_mem (migratedReceipts_columns hf).2.1 (migratedReceipts_columns hf).2.2
  have hmetadata : (migrated f).serviceMetadata.ensureColumn "required_confirmations" .null =
      (migrated f).serviceMetadata := SqlTable.ensureColumn_of_mem SqlTable.mem_ensureColumn
  have hreceived : (migrated f).addressTotals.ensureColumn "received_by_confirmations" .null =
      (migrated f).addressTotals := SqlTable.ensureColumn_of_mem
    ((SqlTable.ensureColumn_extends _ _ _).columns SqlTable.mem_ensureColumn)
  have hnotified : (migrated f).addressTotals.ensureColumn "last_notified_by_confirmations" .null =
      (migrated f).addressTotals := SqlTable.ensureColumn_of_mem SqlTable.mem_ensureColumn
  have hdelivered : (migrated f).webhookDeliveries.ensureColumn "received_by_confirmations" .null =
      (migrated f).webhookDeliveries := SqlTable.ensureColumn_of_mem SqlTable.mem_ensureColumn
  have hversion : (migrated f).appSchemaVersion.map
      (fun v => if v < currentSchemaVersion then currentSchemaVersion else v) =
      (migrated f).appSchemaVersion := raiseSchemaVersion_idem f.appSchemaVersion
  rw [migrated, raiseSchemaVersion, ensureReceivedByConfirmationsColumns]
  simp only [hcopies, hreceipts, hmetadata, hreceived, hnotified, hdelivered, hversion]
  rfl

/-- No orchard receiver has the encoding of another address's ironwood receiver. -/
def EncodingsApart (rows : List ReceiverRow) : Prop :=
  ∀ r ∈ rows, r.pool = .orchard → ∀ s ∈ rows, s.pool = .ironwood →
    s.receiverEncoding = r.receiverEncoding → s.addressId = r.addressId

lemma EncodingsApart.noIronwoodTwin (h : EncodingsApart rows) :
    NoIronwoodTwin (·.receiverEncoding) rows := by
  intro r hr s hs hpool heq
  obtain ⟨hmem, horchard, hnone⟩ := mem_orchardOnly.mp hr
  exact hnone s hs (h r hmem horchard s hs hpool heq) hpool

/-- **The migration is total and lossless** exactly where the receipts have their kind already,
a table of receipts that is rebuilt has no kind but the two known ones, and no orchard receiver
that is copied has the fingerprint of an ironwood receiver. -/
theorem migration_lossless_iff (f : AppFile M T D) (hf : f.WellFormed)
    (hencodings : EncodingsApart f.addressReceivers) :
    (∃ f', initializeSchema f = (f', .ok ()) ∧ Lossless f f' ∧
      initializeSchema f' = (f', .ok ())) ↔
    "receipt_kind" ∈ f.addressReceiptsRecent.columns ∧
      (f.receiptsIronwood = true ∨
        ∀ r ∈ f.addressReceiptsRecent.rows, r.2 "receipt_kind" ∈ receiptKinds) ∧
      NoIronwoodTwin (·.receiverFingerprint) f.addressReceivers := by
  constructor
  · rintro ⟨f', h, -, -⟩
    obtain ⟨hu, -⟩ := (initializeSchema_ok_iff hf).mp h
    exact ⟨hu.kindColumn, hu.kinds, hu.fingerprints⟩
  · rintro ⟨hk, hkinds, hfingerprints⟩
    have hu : Upgradable f := ⟨hk, hkinds, hencodings.noIronwoodTwin, hfingerprints⟩
    obtain ⟨hagain, hsame⟩ := migrated_again hf
    exact ⟨migrated f, (initializeSchema_ok_iff hf).mpr ⟨hu, rfl⟩, migrated_lossless hf hu,
      (initializeSchema_ok_iff (migrated_wellFormed hf hu)).mpr ⟨hagain, hsame.symm⟩⟩

/-- A file from before the ironwood pool, with one orchard receiver and one receipt. -/
def oldFile (columns : List String) : AppFile Unit Unit Unit where
  addressReceivers := [⟨1, 1, .orchard, "o1", [1], 1, "t0"⟩]
  receiversIronwood := false
  addressReceiptsRecent := {
    columns
    rows := [(⟨1, 1, "aa", .orchard, "aa:orchard:0", 5, 8, 3, 1, "t1", .active, 1⟩,
      fun c => if c = "receipt_kind" then .text "mined" else .null)] }
  receiptsIronwood := false
  mempoolTxidIndex := false
  serviceMetadata := ⟨[], []⟩
  appSchemaVersion := some 1
  addressTotals := ⟨[], []⟩
  webhookDeliveries := ⟨[], []⟩

lemma oldFile_wellFormed {columns : List String} (h : columns ⊆ ["receipt_kind"]) :
    (oldFile columns).WellFormed := by
  refine ⟨by simp [oldFile, ReceiversUnique, UniquePerPool], by simp [oldFile],
    by simp [oldFile], fun c hc => ?_, by simp [oldFile],
    fun hc => ?_⟩
  · rw [List.mem_singleton.mp (h hc)]
    exact List.mem_cons_self
  · exact absurd (List.mem_singleton.mp (h hc)) (by decide)

/-- Receipts with a kind but no time of first observation, in both old pool tables. -/
theorem migration_lossless_before_ironwood :
    ∃ f', initializeSchema (oldFile ["receipt_kind"]) = (f', .ok ()) ∧
      Lossless (oldFile ["receipt_kind"]) f' ∧ initializeSchema f' = (f', .ok ()) :=
  (migration_lossless_iff (oldFile ["receipt_kind"]) (oldFile_wellFormed fun _ h => h)
    (by simp [EncodingsApart, oldFile])).mpr
    ⟨by simp [oldFile], by simp [oldFile, receiptKinds], by
      simp [NoIronwoodTwin, oldFile]⟩

/-- Receipts without a kind: the batch indexes the column before the next step adds it. -/
theorem open_fails_without_receipt_kind :
    (oldFile []).WellFormed ∧ EncodingsApart (oldFile []).addressReceivers ∧
      (initializeSchema (oldFile [])).2 = .error (.database "no such column: receipt_kind") :=
  ⟨oldFile_wellFormed (by simp), by simp [EncodingsApart, oldFile], rfl⟩

end ZcashPayment

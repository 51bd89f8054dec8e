import ZcashPayment.SyncMirror

/-!
An iteration, stage by stage: what it mirrors when it completes, and what it leaves to resume
from when it ends early.
-/

namespace ZcashPayment

open Prog

variable {env : Env} {config : Config} {payee : Pool → Bytes → Option ℕ} {C : ChainView}
  {birthday T L₀ n : ℕ} {calm clean : Prop} {metadata : ServiceMetadata}

lemma one_le_window (config : Config) : 1 ≤ config.window := le_max_right _ _

lemma sub_window (config : Config) (n : ℕ) :
    n - (config.finalityConfirmations - 1) = n + 1 - config.window := by
  unfold Config.window
  omega

/-! ### Which heights are read -/

/-- The forward scan starts at most one above what the overlap has read. -/
lemma forward_le_of_overlap (hu : L₀ ≤ u32Max) {batch : ScanBatch}
    (h : reorgOverlapBatch birthday L₀ T config.finalityConfirmations = some batch) :
    batch.startHeight = max (min L₀ T + 1 - config.window) birthday ∧
      batch.startHeight ≤ batch.endHeight ∧ batch.endHeight ≤ T ∧
      forwardScanStartHeight birthday L₀ T ≤ batch.endHeight + 1 := by
  have hw := one_le_window config
  rw [reorgOverlapBatch_eq hu] at h
  split_ifs at h with h0
  cases h
  rw [forwardScanStartHeight_eq hu, if_neg (by omega), sub_window]
  refine ⟨rfl, by simp only; omega, min_le_right _ _, by simp only; omega⟩

lemma forward_le_of_no_overlap (hu : L₀ ≤ u32Max)
    (h : reorgOverlapBatch birthday L₀ T config.finalityConfirmations = none) :
    forwardScanStartHeight birthday L₀ T ≤ birthday := by
  rw [reorgOverlapBatch_eq hu] at h
  rw [forwardScanStartHeight_eq hu]
  split_ifs at h with h0
  split_ifs <;> omega

lemma birthday_le_forward : birthday ≤ forwardScanStartHeight birthday L₀ T := by
  unfold forwardScanStartHeight
  split_ifs
  · exact le_rfl
  · exact le_max_right _ _

/-- Nothing is left to scan only where the tip is scanned, or below the birthday. -/
lemma scanned_of_forward_gt (hu : L₀ ≤ u32Max)
    (h : T < forwardScanStartHeight birthday L₀ T) : T ≤ L₀ ∨ T < birthday := by
  rw [forwardScanStartHeight_eq hu] at h
  split_ifs at h <;> omega

/-- What is left to scan starts no lower than the scanned height. -/
lemma scanned_le_forward (hu : L₀ ≤ u32Max) (h : forwardScanStartHeight birthday L₀ T ≤ T) :
    L₀ ≤ forwardScanStartHeight birthday L₀ T ∧ L₀ ≤ T := by
  rw [forwardScanStartHeight_eq hu] at h ⊢
  split_ifs at h ⊢ <;> omega

/-! ### The stages -/

/-- The answers of one chain view at one tip. -/
abbrev SeesAll (C : ChainView) (T : ℕ) (p : ℕ × Answer) : Prop := Sees C T p.2

lemma answers_sortBlocks {batch : ScanBatch} {blocks : List CompactBlock}
    (h : C.Answers batch blocks) : C.Answers batch (sortBlocks blocks) :=
  fun b => mem_sortBlocks.trans (h b)

/-- What the scan of a range attributes, under the assumptions on answers and scans. -/
lemma attributedIn_of_answer {batch : ScanBatch} {answered : List CompactBlock}
    {find : Pool → Bytes → Option ℕ} {threshold : ℕ} {observedAt : Timestamp}
    {attributed : List AttributedScannedReceipt} (hA : C.Answers batch answered)
    (hS : ScanKnows payee ⟨find, scanCompactBlocks (sortBlocks answered)⟩)
    (h : attributeScannedReceipts find T threshold observedAt
      (scanCompactBlocks (sortBlocks answered)) = .ok attributed) :
    AttributedIn payee C batch T threshold observedAt attributed := by
  have hA' := answers_sortBlocks hA
  refine attributedIn_of_scan hA' (fun r hr => hS r hr ?_) h
  exact ((C.mem_scan hA').mp hr).1.not_mempool

section stages

variable {J : World → Prop}

lemma revokeAboveTip_mirrors :
    SyncTriple (SeesAll C T) (ScanKnows payee)
      (fun w => Ready payee C config birthday T L₀ calm clean w.db)
      (revokeAboveTip env config L₀ T)
      (fun _ w => Scanned payee C config birthday T L₀ calm clean
        (min L₀ T + 1 - config.window) w.db)
      fun _ w => Resumable payee C config birthday T L₀ calm w.db := by
  unfold revokeAboveTip
  refine SyncTriple.ite (fun h => ?_) fun h => SyncTriple.pure fun w hw => hw.scanned (by omega)
  refine (transaction_rule Ready.ofLedger.stable fun w now out db hw hok => ?_).halts
    fun e w hw => hw.1.resumable
  obtain ⟨-, hc⟩ := revoke_ok hok
  exact hw.revoke (by omega) (Pending.commit_receipts hc) (Pending.commit_scanned hc)

/-- Reading a range next to what is mirrored extends it. -/
lemma reconcileRange_mirrors {awaiting : Await} {batch : ScanBatch}
    (h1 : birthday ≤ batch.startHeight) (h2 : batch.startHeight ≤ max n birthday)
    (h3 : batch.startHeight ≤ batch.endHeight) (h4 : batch.endHeight ≤ T) :
    SyncTriple (SeesAll C T) (ScanKnows payee)
      (fun w => Scanned payee C config birthday T L₀ calm clean n w.db)
      (reconcileRange env config awaiting T batch)
      (fun _ w => Scanned payee C config birthday T L₀ calm clean (batch.endHeight + 1) w.db)
      fun _ w => Resumable payee C config birthday T L₀ calm w.db := by
  refine (reconcileRange_rule (F := fun _ w => Scanned payee C config birthday T L₀ calm clean n
    w.db) h3 Scanned.ofLedger.stable (fun w hw => hw) (fun _ => Scanned.ofLedger.stable)
    (fun _ w hw => hw) ?_).halts fun e w hw => hw.1.toResumable
  intro find t answered observedAt attributed w now out db hw hA hS hatt hok
  obtain ⟨-, hc⟩ := reconcile_ok hok
  exact hw.reconcile (attributedIn_of_answer hA hS hatt) h1 h2 h4 (Pending.commit_receipts hc)
    (Pending.commit_scanned hc)

lemma reconcileOverlap_mirrors (hu : L₀ ≤ u32Max) :
    SyncTriple (SeesAll C T) (ScanKnows payee)
      (fun w => Scanned payee C config birthday T L₀ calm clean
        (min L₀ T + 1 - config.window) w.db)
      (reconcileOverlap env config T
        (reorgOverlapBatch birthday L₀ T config.finalityConfirmations))
      (fun _ w => Scanned payee C config birthday T L₀ calm clean
        (forwardScanStartHeight birthday L₀ T) w.db)
      fun _ w => Resumable payee C config birthday T L₀ calm w.db := by
  rcases h : reorgOverlapBatch birthday L₀ T config.finalityConfirmations with _ | batch
  · have hle := forward_le_of_no_overlap hu h
    exact SyncTriple.pure fun w hw => hw.mono (by omega)
  · obtain ⟨hs, hse, he, hle⟩ := forward_le_of_overlap hu h
    exact (reconcileRange_mirrors (by omega) (by omega) hse he).post
      fun _ w hw => hw.mono (by omega)

/-- A status that stores a scanned height. -/
lemma status_mirrors {awaiting : Await} {state : SyncState} {reason : String} {tip : ℤ} {L : ℕ}
    (hL : L + 1 - config.window ≤ max n birthday) (hT : L ≤ T) (hu : L ≤ u32Max) :
    SyncTriple (SeesAll C T) (ScanKnows payee)
      (fun w => Scanned payee C config birthday T L₀ calm clean n w.db)
      (transaction env awaiting fun now => recordSyncStatus state reason tip L now)
      (fun _ w => Scanned payee C config birthday T L₀ calm clean n w.db)
      fun _ w => Resumable payee C config birthday T L₀ calm w.db :=
  (status_rule Scanned.ofLedger fun _ _ hw hr hs => hw.store hL hT hu hr hs).halts
    fun _ _ hw => hw.toResumable

/-- The plan of the forward scan, by where it starts. -/
lemma planScanRange_cases (next tip catchUp size : ℕ) :
    (tip < next ∧ (planScanRange next tip catchUp size).firstBatch = none ∧
        (planScanRange next tip catchUp size).shouldMarkCatchingUp = false) ∨
      ∃ first, next ≤ tip ∧ (planScanRange next tip catchUp size).firstBatch = some first ∧
        (planScanRange next tip catchUp size).finalHeight = some tip ∧
        first.startHeight = next ∧ (tip ≤ u32Max → next ≤ first.endHeight ∧
          first.endHeight ≤ tip) := by
  unfold planScanRange
  by_cases h : next > tip
  · exact Or.inl ⟨h, by rw [if_pos h], by rw [if_pos h]⟩
  · right
    rw [if_neg h]
    have hn : nextScanBatch next tip size = some ⟨next, min (saturatingAdd next (size - 1)) tip⟩ :=
      if_neg h
    refine ⟨_, by omega, hn, rfl, rfl, fun hu => ?_⟩
    simp only [saturatingAdd]
    omega

lemma markCatchingUp_mirrors (hL : metadata.lastScannedHeight = L₀) (hu : L₀ ≤ u32Max)
    {catchUp size : ℕ} :
    SyncTriple (SeesAll C T) (ScanKnows payee)
      (fun w => Scanned payee C config birthday T L₀ calm clean
        (forwardScanStartHeight birthday L₀ T) w.db)
      (markCatchingUp env metadata T
        (planScanRange (forwardScanStartHeight birthday L₀ T) T catchUp size))
      (fun _ w => Scanned payee C config birthday T L₀ calm clean
        (forwardScanStartHeight birthday L₀ T) w.db)
      fun _ w => Resumable payee C config birthday T L₀ calm w.db := by
  unfold markCatchingUp
  rw [hL]
  rcases planScanRange_cases (forwardScanStartHeight birthday L₀ T) T catchUp size with
    ⟨-, -, hm⟩ | ⟨first, hle, hf, hfinal, -⟩
  · rw [hm]
    exact SyncTriple.pure fun w hw => hw
  · rw [hf, hfinal]
    obtain ⟨h1, h2⟩ := scanned_le_forward hu hle
    have h3 := one_le_window config
    split
    · exact (status_mirrors (by omega) h2 hu).bind fun _ => SyncTriple.pure fun w hw => hw
    · exact SyncTriple.pure fun w hw => hw

/-- One turn of the loop: the batch is mirrored, and its end stored. -/
lemma scanBatch_mirrors (hT : T ≤ u32Max) {batch : ScanBatch}
    (h1 : birthday ≤ batch.startHeight) (h2 : batch.startHeight ≤ batch.endHeight)
    (h3 : batch.endHeight ≤ T) :
    SyncTriple (SeesAll C T) (ScanKnows payee)
      (fun w => Scanned payee C config birthday T L₀ calm clean batch.startHeight w.db)
      (scanBatch env config T batch)
      (fun _ w => Scanned payee C config birthday T L₀ calm clean (batch.endHeight + 1) w.db)
      fun _ w => Resumable payee C config birthday T L₀ calm w.db := by
  have h4 := one_le_window config
  refine (reconcileRange_mirrors h1 (by omega) h2 h3).bind fun out => ?_
  refine (Scanned.ofLedger.queue_rule.halts fun _ _ hw => hw.toResumable).bind fun queued => ?_
  exact (status_mirrors (by omega) h3 (by omega)).bind fun _ => SyncTriple.pure fun w hw => hw

lemma scanForward_mirrors (hL : metadata.lastScannedHeight = L₀) (hu : L₀ ≤ u32Max)
    (hT : T ≤ u32Max) {catchUp size : ℕ} :
    SyncTriple (SeesAll C T) (ScanKnows payee)
      (fun w => Scanned payee C config birthday T L₀ calm clean
        (forwardScanStartHeight birthday L₀ T) w.db)
      (scanForward env config metadata T
        (planScanRange (forwardScanStartHeight birthday L₀ T) T catchUp size))
      (fun r w => Scanned payee C config birthday T L₀ calm clean (T + 1) w.db ∧ r.2 ≤ T ∧
        (birthday ≤ T → r.2 = T))
      fun _ w => Resumable payee C config birthday T L₀ calm w.db := by
  unfold scanForward
  rcases planScanRange_cases (forwardScanStartHeight birthday L₀ T) T catchUp size with
    ⟨hgt, hf, -⟩ | ⟨first, hle, hf, hfinal, hstart, hend⟩
  · rw [hf]
    have hr : (u32TryFrom (max metadata.lastScannedHeight 0)).getD 0 = L₀ := by
      rw [hL, max_eq_left (by omega), u32TryFrom_natCast hu]
      rfl
    refine SyncTriple.pure fun w hw => ⟨hw.mono (by omega), ?_, fun hb => ?_⟩
    · exact min_le_left _ _
    · rcases scanned_of_forward_gt hu hgt with h | h
      · simp only [hr]
        omega
      · omega
  · rw [hf, hfinal]
    obtain ⟨he1, he2⟩ := hend hT
    refine SyncTriple.pre ((batches_rule birthday
      (fun n w => Scanned payee C config birthday T L₀ calm clean n w.db) hT
      (fun batch h1 h2 h3 => scanBatch_mirrors hT h1 h2 h3) (fun n w hw => hw.mono (by omega))
      (fun n w hw => hw.toResumable) _ _ (hstart ▸ birthday_le_forward) (hstart ▸ he1) he2).post
      fun r w hw => ?_) fun w hw => hstart ▸ hw
    exact ⟨hw.2.2, hw.1.le, fun _ => hw.1⟩

lemma advanceMaturity_mirrors :
    SyncTriple (SeesAll C T) (ScanKnows payee)
      (fun w => Scanned payee C config birthday T L₀ calm clean n w.db)
      (advanceMaturity env config T)
      (fun _ w => Scanned payee C config birthday T L₀ calm clean n w.db ∧
        MaturedAt T config.webhookReportConfirmations w.db)
      fun _ w => Resumable payee C config birthday T L₀ calm w.db := by
  refine SyncTriple.bind (R := fun _ w => Scanned payee C config birthday T L₀ calm clean n w.db ∧
    MaturedAt T config.webhookReportConfirmations w.db)
    ((transaction_rule Scanned.ofLedger.stable fun w now ids db hw hok => ?_).halts
      fun e w hw => hw.1.toResumable) fun matured => ?_
  · obtain ⟨-, hc⟩ := maturity_ok hok
    exact hw.mature (Pending.commit_receipts hc) (Pending.commit_scanned hc)
  · exact ((Scanned.ofLedger.and MaturedAt.ofLedger).queue_rule.halts
      fun _ _ hw => hw.1.toResumable).bind fun _ => SyncTriple.pure fun w hw => hw

/-- The snapshot's receipts are of transactions it lists. -/
lemma snapshot_disjoint {s : MempoolSnapshot} {raw : List WalletTx}
    {find : Pool → Bytes → Option ℕ} {threshold : ℕ} {observedAt : Timestamp}
    {attributed : List AttributedScannedReceipt}
    (hs : Sees C T (.mempoolTxids s.txids)) (hraw : s.Fetched (SeesAll C T) raw)
    (h : attributeScannedReceipts find T threshold observedAt (scanMempoolTransactions raw) =
      .ok attributed) (r : IncomingReceipt) (hr : C.Has r) (hT : r.minedHeight ≤ T) :
    ∀ e ∈ attributed, e.receiptUid ≠ r.receiptUid := by
  intro e he heq
  obtain ⟨q, hq, a, -, rfl⟩ := (mem_attributeScannedReceipts h).mp he
  obtain ⟨tx, htx, hq⟩ := mem_scanMempool hq
  have htxid : q.txidHex = r.txidHex := congrArg ReceiptUid.txidHex heq
  rcases hraw with ⟨-, rfl⟩ | ⟨t, hraw⟩
  · cases htx
  · obtain ⟨txid, hmem, hhex⟩ := List.mem_map.mp (hraw tx htx)
    refine hs r hr hT (List.mem_map.mpr ⟨txid, (List.mem_filter.mp hmem).1, ?_⟩)
    rw [hhex, ← (mem_txReceipts hq).1, htxid]

lemma syncMempool_mirrors {newLastScannedHeight : ℕ} (hn : n ≤ T + 1) :
    SyncTriple (SeesAll C T) (ScanKnows payee)
      (fun w => Scanned payee C config birthday T L₀ calm clean n w.db ∧
        MaturedAt T config.webhookReportConfirmations w.db)
      (syncMempool env config T newLastScannedHeight)
      (fun _ w => Scanned payee C config birthday T L₀ calm clean n w.db ∧
        MaturedAt T config.webhookReportConfirmations w.db)
      fun _ w => Resumable payee C config birthday T L₀ calm w.db := by
  have hI : OfLedger fun db => Scanned payee C config birthday T L₀ calm clean n db ∧
      MaturedAt T config.webhookReportConfirmations db :=
    Scanned.ofLedger.and MaturedAt.ofLedger
  unfold syncMempool
  refine SyncTriple.ite (fun _ => ?_) fun _ => SyncTriple.pure fun w hw => hw
  refine (mempool_rule hI.stable (fun w txids hw hA => ⟨hw, hA⟩)
    (fun s => hI.stable.fact (Sees C T (.mempoolTxids s.txids))) (fun s w hw => hw.1)
    (fun s raw w hw hraw => ⟨hw, hraw⟩)
    (fun s raw find => (hI.stable.fact _).fact (s.Fetched (SeesAll C T) raw))
    (fun s raw find w hw => hw.1) ?_ (fun out => hI.stable) fun out w now hw => ?_).halts
      fun e w hw => ?_
  · intro s raw find observedAt attributed revoke w out db hw hS hatt hrevoke hok
    obtain ⟨⟨⟨hw, hm⟩, hs⟩, hraw⟩ := hw
    obtain ⟨cutoff, -, -, hc⟩ := mempool_ok hok
    have h := hw.mempool hn (fun r hr hT => snapshot_disjoint hs hraw hatt r hr hT)
      (Pending.commit_receipts hc) (Pending.commit_scanned hc)
    exact ⟨h.1, h.2 hm⟩
  · obtain ⟨hr, hs⟩ := queue_frame_scanned now out.affectedAddressIds w.db
    exact hI hr hs hw
  · rcases hw with ⟨hw, -⟩ | ⟨out, hw, -⟩
    · exact hw.1.toResumable
    · exact hw.1.toResumable

end stages

/-! ### The whole iteration -/

/-- What a completed iteration leaves. -/
structure Completed (payee : Pool → Bytes → Option ℕ) (C : ChainView) (config : Config)
    (birthday T : ℕ) (clean : Prop) (db : Db) : Prop where
  on : MirrorsOn payee C birthday (T + 1) db
  from_birthday : MinedFrom birthday db
  up_to_tip : clean → MinedUpTo T db
  matured : MaturedAt T config.webhookReportConfirmations db
  stored : ∃ L : ℕ, db.scanned = some (L : ℤ) ∧ L ≤ u32Max ∧ L ≤ T ∧ (birthday ≤ T → L = T)

lemma finishSync_mirrors (hu : T ≤ u32Max) {L : ℕ} {observed : List ℕ}
    (hL : L ≤ T ∧ (birthday ≤ T → L = T)) :
    SyncTriple (SeesAll C T) (ScanKnows payee)
      (fun w => Scanned payee C config birthday T L₀ calm clean (T + 1) w.db)
      (finishSync env config T L observed)
      (fun t w => t = T ∧ Completed payee C config birthday T clean w.db)
      fun _ w => Resumable payee C config birthday T L₀ calm w.db := by
  have hw := one_le_window config
  refine advanceMaturity_mirrors.bind fun matured => ?_
  refine (syncMempool_mirrors le_rfl).bind fun inMempool => ?_
  refine SyncTriple.bind (R := fun _ w => Completed payee C config birthday T clean w.db)
    ((status_rule (Scanned.ofLedger.and MaturedAt.ofLedger) ?_).halts fun _ _ hw =>
      hw.1.toResumable) fun _ => SyncTriple.pure fun w hw => ⟨rfl, hw⟩
  rintro db db' ⟨hs, hm⟩ hr hst
  have hs' := hs.store (by omega) hL.1 (by omega) hr hst
  refine ⟨hs'.on, hs'.from_birthday, fun hc => hs'.up_to_tip (Or.inl hc), ?_,
    L, hst, by omega, hL⟩
  rw [MaturedAt, hr]
  exact hm

/-- **An iteration at the tip `T`**: completed it mirrors the chain up to the tip; ended early
it leaves what the next one can resume from. -/
lemma syncAt_mirrors (hL : metadata.lastScannedHeight = L₀) (hu : L₀ ≤ u32Max)
    (hT : T ≤ u32Max) :
    SyncTriple (SeesAll C T) (ScanKnows payee)
      (fun w => Ready payee C config birthday T L₀ calm clean w.db)
      (syncAt env config birthday metadata T)
      (fun t w => t = T ∧ Completed payee C config birthday T clean w.db)
      fun _ w => Resumable payee C config birthday T L₀ calm w.db := by
  unfold syncAt
  simp only [buildSyncScanDecision, hL]
  refine revokeAboveTip_mirrors.bind fun cleanup => ?_
  refine (reconcileOverlap_mirrors hu).bind fun overlap => ?_
  refine (Scanned.ofLedger.queue_rule.halts fun _ _ hw => hw.toResumable).bind fun queued => ?_
  refine (Scanned.ofLedger.logReorg_rule.halts fun _ _ hw => hw.toResumable).bind fun _ => ?_
  refine (markCatchingUp_mirrors hL hu).bind fun _ => ?_
  refine (scanForward_mirrors hL hu hT).bind fun r => ?_
  exact SyncTriple.of_fact (fun w₀ => (extends_recorded env w₀).finish)
    fun hr => finishSync_mirrors hT hr

/-- **An iteration**, with the tip it samples. -/
lemma syncOnce_mirrors :
    SyncTriple (SeesAll C T) (ScanKnows payee)
      (fun w => Ready payee C config birthday T L₀ calm clean w.db)
      (syncOnce env config birthday)
      (fun t w => t = T ∧ Completed payee C config birthday T clean w.db)
      fun _ w => Resumable payee C config birthday T L₀ calm w.db := by
  refine SyncTriple.bind (R := fun r w => Ready payee C config birthday T L₀ calm clean w.db ∧
    (r.1.lastScannedHeight = (L₀ : ℤ) ∧ L₀ ≤ u32Max ∧ r.2 = T ∧ r.2 ≤ u32Max)) ?_ fun r => ?_
  · refine ((Ready.ofLedger.readMetadata_rule fun db hw => hw.stored.1).halts
      fun _ _ hw => hw.resumable).bind fun m => ?_
    refine ((await_rule (Ready.ofLedger.stable.fact _)).halts fun e w hw =>
      hw.1.1.resumable).bind fun tip => SyncTriple.pure fun w hw => ?_
    have htip : tip.val ≤ u32Max := by
      have := tip.isLt
      unfold u32Max
      omega
    exact ⟨hw.1.1, hw.1.2, hw.1.1.stored.2, hw.2.2, htip⟩
  · refine SyncTriple.of_fact (fun w₀ => (extends_recorded env w₀).syncAt) fun hfact => ?_
    obtain ⟨hL, hu, rfl, hT⟩ := hfact
    exact syncAt_mirrors hL hu hT

end ZcashPayment

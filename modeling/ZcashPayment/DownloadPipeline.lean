import ZcashPayment.OrderedHandOff
import ZcashPayment.ScanPlan
import ZcashPayment.SyncSpec

/-!
The pipeline of downloads and scans.

The downloads of a catch-up scan run side by side and are handed over in height order through a
bounded channel. The scan takes one batch at a time: it attributes what the blocks hold,
reconciles the heights of the batch, queues the deliveries that are due and stores the end of the
batch. Downloads, scan and the other writers of the database move in any order.
-/

namespace ZcashPayment

open OrderedHandOff Relation

/-! ### run_ordered_downloads -/

/-- How the fetch of a batch ends. -/
inductive Fetched
  | blocks (blocks : List CompactBlock)
  | failed (error : AppError)
  | panicked (message : String)

structure DownloadedBatch where
  batch : ScanBatch
  blocks : List CompactBlock

def joinErrorToWalletError (message : String) : AppError :=
  .wallet ("wallet sync worker subtask failed: " ++ message)

/-- The downloads from one batch to the next, at most `concurrency` at a time, with a channel for
`depth` results. -/
def runOrderedDownloads (finalHeight catchUpBatchSize concurrency depth : ℕ)
    (fetch : ScanBatch → Fetched) : Source ScanBatch DownloadedBatch AppError where
  following := followingBatch finalHeight catchUpBatchSize
  outcome batch :=
    match fetch batch with
    | .blocks blocks => .value ⟨batch, blocks⟩
    | .failed error => .failure error
    | .panicked message => .lost (joinErrorToWalletError message)
  width := max concurrency 1
  capacity := depth

/-! ### scan_batches_with_pipeline -/

/-- Where the scan stands. -/
inductive ScanPhase
  /-- The keys and the threads of the scan are set up. -/
  | preparing
  | receiving
  | scanning (downloaded : DownloadedBatch)
  | reconciling (batch : ScanBatch) (attributed : List AttributedScannedReceipt)
  | queueing (batch : ScanBatch) (reconciliation : ReceiptRangeReconciliation)
  | recording (batch : ScanBatch) (reconciliation : ReceiptRangeReconciliation) (queued : List ℕ)
  /-- The channel is closed and the task of the downloads is awaited. -/
  | joining
  | returned (result : Except AppError (List ℕ × ℤ))

/-- Whether what the scan does now is its own work, which may fail. -/
def ScanPhase.own : ScanPhase → Bool
  | .preparing | .scanning _ | .reconciling .. | .queueing .. | .recording .. => true
  | .receiving | .joining | .returned _ => false

def ScanPhase.over : ScanPhase → Bool
  | .returned _ => true
  | _ => false

structure PipelineState where
  downloads : OrderedHandOff.State ScanBatch DownloadedBatch AppError
  phase : ScanPhase
  affectedAddressIds : List ℕ
  lastScannedHeight : ℤ
  db : Db
  /-- The batches that were reconciled. -/
  reconciled : List ScanBatch
  /-- Whether a step of the scan's own work has failed. -/
  ownFailure : Bool

def PipelineState.initial (first : ScanBatch) (db : Db) : PipelineState :=
  { downloads := .initial first, phase := .preparing, affectedAddressIds := []
    lastScannedHeight := 0, db, reconciled := [], ownFailure := false }

/-- The scan returns, and the receiver is gone. -/
def PipelineState.return (s : PipelineState) (result : Except AppError (List ℕ × ℤ)) :
    PipelineState :=
  { s with downloads := { s.downloads with isOpen := false }, phase := .returned result }

/-- The parameters of a scan. -/
structure PipelineRun where
  config : Config
  tipHeight : ℕ
  finalHeight : ℕ
  catchUpBatchSize : ℕ
  concurrency : ℕ
  depth : ℕ
  fetch : ScanBatch → Fetched

def PipelineRun.downloads (run : PipelineRun) : Source ScanBatch DownloadedBatch AppError :=
  runOrderedDownloads run.finalHeight run.catchUpBatchSize run.concurrency run.depth run.fetch

/-- One step of the downloads or of the scan. -/
inductive PipelineStep (run : PipelineRun) : PipelineState → PipelineState → Prop
  | download {s : PipelineState} {downloads : State ScanBatch DownloadedBatch AppError}
      (h : run.downloads.Step s.downloads downloads) : PipelineStep run s { s with downloads }
  | prepare {s : PipelineState} (hp : s.phase = .preparing) :
      PipelineStep run s { s with phase := .receiving }
  | receive {s : PipelineState} {downloaded : DownloadedBatch}
      {rest : List (Except AppError DownloadedBatch)} (hp : s.phase = .receiving)
      (hc : s.downloads.channel = .ok downloaded :: rest) :
      PipelineStep run s { s with
        downloads := { s.downloads with channel := rest }, phase := .scanning downloaded }
  | receiveFailure {s : PipelineState} {error : AppError}
      {rest : List (Except AppError DownloadedBatch)} (hp : s.phase = .receiving)
      (hc : s.downloads.channel = .error error :: rest) :
      PipelineStep run s ({ s with downloads := { s.downloads with channel := rest } }.return
        (.error error))
  | scan {s : PipelineState} {downloaded : DownloadedBatch}
      {attributed : List AttributedScannedReceipt} (observedAt : Timestamp)
      (hp : s.phase = .scanning downloaded)
      (h : attributeScannedReceipts (findAddressIdByReceiverFingerprint s.db) run.tipHeight
        run.config.webhookReportConfirmations observedAt (scanCompactBlocks downloaded.blocks) =
          .ok attributed) :
      PipelineStep run s { s with phase := .reconciling downloaded.batch attributed }
  | reconcile {s : PipelineState} {batch : ScanBatch} {attributed : List AttributedScannedReceipt}
      {reconciliation : ReceiptRangeReconciliation} {db : Db} (now : Timestamp)
      (hp : s.phase = .reconciling batch attributed)
      (h : reconcileAttributedReceiptsInRange attributed batch.startHeight batch.endHeight
        run.tipHeight run.config.finalityConfirmations now s.db = .ok (reconciliation, db)) :
      PipelineStep run s { s with
        phase := .queueing batch reconciliation, db, reconciled := s.reconciled ++ [batch] }
  | queue {s : PipelineState} {batch : ScanBatch} {reconciliation : ReceiptRangeReconciliation}
      {queued : List ℕ} {db : Db} (now : Timestamp) (hp : s.phase = .queueing batch reconciliation)
      (h : queueWebhookDeliveriesForDirtyAddresses now reconciliation.affectedAddressIds s.db =
        (queued, db)) :
      PipelineStep run s { s with
        phase := .recording batch reconciliation queued, db
        affectedAddressIds := s.affectedAddressIds ++ reconciliation.affectedAddressIds
        lastScannedHeight := batch.endHeight }
  | record {s : PipelineState} {batch : ScanBatch} {reconciliation : ReceiptRangeReconciliation}
      {queued : List ℕ} {metadata : ServiceMetadata} {db : Db} (now : Timestamp)
      (hp : s.phase = .recording batch reconciliation queued)
      (h : recordSyncStatus .catchingUp (batchReason batch reconciliation queued) run.tipHeight
        s.lastScannedHeight now s.db = .ok (metadata, db)) :
      PipelineStep run s { s with phase := .receiving, db }
  | fail {s : PipelineState} (error : AppError) (hp : s.phase.own = true) :
      PipelineStep run s ({ s with ownFailure := true }.return (.error error))
  | closed {s : PipelineState} {result : Except AppError Unit} (hp : s.phase = .receiving)
      (hc : s.downloads.channel = []) (hd : s.downloads.phase = .returned result) :
      PipelineStep run s { s with phase := .joining }
  | join {s : PipelineState} {result : Except AppError Unit} (hp : s.phase = .joining)
      (hd : s.downloads.phase = .returned result) :
      PipelineStep run s (s.return
        (result.map fun _ => (idSet s.affectedAddressIds, s.lastScannedHeight)))

/-- Runs with their number of steps. Other writers change the database meanwhile, but not the
scanned height. -/
inductive PipelineRuns (run : PipelineRun) (s : PipelineState) : ℕ → PipelineState → Prop
  | refl : PipelineRuns run s 0 s
  | step {n : ℕ} {s' s'' : PipelineState} (h : PipelineRuns run s n s')
      (hstep : PipelineStep run s' s'') : PipelineRuns run s (n + 1) s''
  | outside {n : ℕ} {s' : PipelineState} {db : Db} (h : PipelineRuns run s n s')
      (hdb : db.scanned = s'.db.scanned) : PipelineRuns run s n { s' with db }

/-! ### The batches of a run -/

variable {run : PipelineRun} {s s' : PipelineState} {items : List ScanBatch}
  {final size lo : ℕ} {first : Option ScanBatch} {batches : List ScanBatch}

lemma lists_of_downloads {concurrency depth : ℕ} {fetch : ScanBatch → Fetched}
    (hd : Downloads final size first batches) :
    (runOrderedDownloads final size concurrency depth fetch).Lists first batches := by
  induction batches generalizing first with
  | nil =>
    obtain rfl : first = none := hd 0
    exact .nil
  | cons batch batches ih =>
    obtain rfl : first = some batch := hd 0
    refine .cons (ih fun k => ?_)
    have hk := hd (k + 1)
    rwa [batchAt_succ, List.getElem?_cons_succ] at hk

/-- A batch size of zero plans as one of one. -/
lemma nextScanBatch_max_one (lo final size : ℕ) :
    nextScanBatch lo final size = nextScanBatch lo final (max size 1) := by
  have hsub : max size 1 - 1 = size - 1 := by omega
  unfold nextScanBatch
  rw [hsub]

lemma downloads_max_one (hd : Downloads final (max size 1) first batches) :
    Downloads final size first batches := by
  have hfollowing : followingBatch final (max size 1) = followingBatch final size :=
    funext fun batch => (nextScanBatch_max_one _ final size).symm
  intro k
  rw [← hd k]
  induction k with
  | zero => rfl
  | succ k ih => rw [batchAt, batchAt, ih, hfollowing]

/-- **The batches of a scan** tile the heights from its first one to the last. -/
lemma exists_lists {start : ℕ} {first : ScanBatch} (run : PipelineRun)
    (hfinal : run.finalHeight < u32Max)
    (hfirst : nextScanBatch start run.finalHeight run.catchUpBatchSize = some first) :
    ∃ batches, Downloads run.finalHeight run.catchUpBatchSize (some first) batches ∧
      Tiles run.finalHeight start batches ∧ run.downloads.Lists (some first) batches := by
  obtain ⟨batches, hd, ht, -⟩ := downloads_tile (le_max_right run.catchUpBatchSize 1) hfinal start
  rw [← nextScanBatch_max_one, hfirst] at hd
  exact ⟨batches, downloads_max_one hd, ht, lists_of_downloads (downloads_max_one hd)⟩

/-! ### What the scan has done -/

/-- The end of the last batch, or what was stored before. -/
def endOf (before : Option ℤ) (batches : List ScanBatch) : Option ℤ :=
  (batches.getLast?.map fun batch => (batch.endHeight : ℤ)).or before

/-- Where the scan stands when it has taken `taken` from the channel. -/
def ScannedSoFar (before : Option ℤ) (taken : List DownloadedBatch) (s : PipelineState) : Prop :=
  let batches := taken.map DownloadedBatch.batch
  match s.phase with
  | .preparing =>
    taken = [] ∧ s.reconciled = [] ∧ s.db.scanned = before ∧ s.lastScannedHeight = 0
  | .receiving | .joining =>
    s.reconciled = batches ∧ s.db.scanned = endOf before batches ∧
      s.lastScannedHeight = (endOf (some 0) batches).getD 0
  | .scanning downloaded =>
    batches = s.reconciled ++ [downloaded.batch] ∧ s.db.scanned = endOf before s.reconciled
  | .reconciling batch _ =>
    batches = s.reconciled ++ [batch] ∧ s.db.scanned = endOf before s.reconciled
  | .queueing batch _ =>
    s.reconciled = batches ∧ ∃ earlier, batches = earlier ++ [batch] ∧
      s.db.scanned = endOf before earlier
  | .recording batch .. =>
    s.reconciled = batches ∧ s.lastScannedHeight = batch.endHeight ∧
      ∃ earlier, batches = earlier ++ [batch] ∧ s.db.scanned = endOf before earlier
  | .returned _ => True

def Fetched.arrived : Fetched → Bool
  | .blocks _ => true
  | .failed _ | .panicked _ => false

/-- What a result says of the batches. -/
def ReturnedRight (run : PipelineRun) (items : List ScanBatch) (before : Option ℤ)
    (s : PipelineState) : Except AppError (List ℕ × ℤ) → Prop
  | .ok (_, height) =>
    (∀ batch ∈ items, (run.fetch batch).arrived = true) ∧ s.reconciled = items ∧
      s.db.scanned = endOf before items ∧ height = (endOf (some 0) items).getD 0
  | .error _ =>
    s.ownFailure = true ∨ ∃ done batch rest, items = done ++ batch :: rest ∧
      (∀ b ∈ done, (run.fetch b).arrived = true) ∧ (run.fetch batch).arrived = false ∧
      s.reconciled = done ∧ s.db.scanned = endOf before done

structure PipelineInv (run : PipelineRun) (items : List ScanBatch) (before : Option ℤ)
    (s : PipelineState) : Prop where
  downloads : Inv run.downloads items s.downloads
  reconciled : s.reconciled <+: items
  working : s.phase.over = false → s.downloads.isOpen = true ∧ s.ownFailure = false ∧
    ∃ taken, s.downloads.sent = taken.map .ok ++ s.downloads.channel ∧
      ScannedSoFar before taken s ∧
      (s.phase = .joining → s.downloads.channel = [] ∧ ∃ r, s.downloads.phase = .returned r)
  closed : s.phase.over = true → s.downloads.isOpen = false
  returned : ∀ result, s.phase = .returned result → ReturnedRight run items before s result

variable {before : Option ℤ} {taken : List DownloadedBatch}

lemma outcome_value {batch : ScanBatch} {downloaded : DownloadedBatch}
    (h : run.downloads.outcome batch = .value downloaded) :
    downloaded.batch = batch ∧ (run.fetch batch).arrived = true := by
  simp only [PipelineRun.downloads, runOrderedDownloads] at h
  rcases hf : run.fetch batch with blocks | e | m
  · rw [hf] at h
    cases h
    exact ⟨rfl, rfl⟩
  all_goals
    rw [hf] at h
    cases h

lemma not_arrived {batch : ScanBatch} (h : ∀ d, run.downloads.outcome batch ≠ .value d) :
    (run.fetch batch).arrived = false := by
  rcases hf : run.fetch batch with blocks | e | m
  · refine absurd ?_ (h ⟨batch, blocks⟩)
    simp only [PipelineRun.downloads, runOrderedDownloads, hf]
  all_goals rfl

/-- The batches that were taken are the first ones. -/
lemma items_of_taken {rest : List (Except AppError DownloadedBatch)}
    (h : run.downloads.delivered items = taken.map .ok ++ rest) :
    ∃ after, items = taken.map DownloadedBatch.batch ++ after ∧
      (∀ b ∈ taken.map DownloadedBatch.batch, (run.fetch b).arrived = true) ∧
      run.downloads.delivered after = rest ∧
        run.downloads.result after = run.downloads.result items := by
  obtain ⟨done, after, rfl, hvalues, hrest, hresult⟩ := delivered_prefix h
  have hdone : done = taken.map DownloadedBatch.batch ∧
      ∀ b ∈ taken.map DownloadedBatch.batch, (run.fetch b).arrived = true := by
    clear h hrest hresult
    induction hvalues with
    | nil => exact ⟨rfl, fun b hb => by cases hb⟩
    | cons hb _ ih =>
      obtain ⟨rfl, harrived⟩ := outcome_value hb
      rw [List.map_cons, List.forall_mem_cons]
      exact ⟨congrArg _ ih.1, harrived, ih.2⟩
  exact ⟨after, by rw [← hdone.1], hdone.2, hrest, hresult⟩

lemma PipelineInv.taken_prefix (hs : PipelineInv run items before s)
    (hsent : s.downloads.sent = taken.map .ok ++ s.downloads.channel) :
    taken.map DownloadedBatch.batch <+: items := by
  obtain ⟨more, hmore⟩ := hs.downloads.sent_prefix
  rw [hsent, List.append_assoc] at hmore
  obtain ⟨after, rfl, -⟩ := items_of_taken hmore.symm
  exact List.prefix_append _ _

/-- What the scan itself has left to do with the batch it holds. -/
def ScanPhase.work : ScanPhase → ℕ
  | .preparing => 3
  | .receiving => 2
  | .scanning _ => 7
  | .reconciling .. => 6
  | .queueing .. => 5
  | .recording .. => 4
  | .joining => 1
  | .returned _ => 0

lemma ScanPhase.of_own {phase : ScanPhase} (h : phase.own = true) :
    phase.over = false ∧ 0 < phase.work := by
  cases phase with
  | receiving => cases h
  | joining => cases h
  | returned => cases h
  | preparing | scanning | reconciling | queueing | recording => exact ⟨rfl, Nat.succ_pos _⟩

/-! ### One step -/

lemma pipelineInv_initial {first : ScanBatch} {db : Db}
    (h : run.downloads.Lists (some first) items) :
    PipelineInv run items db.scanned (.initial first db) where
  downloads := inv_initial h
  reconciled := List.nil_prefix
  working _ := ⟨rfl, rfl, [], rfl, ⟨rfl, rfl, rfl, rfl⟩, fun h => by cases h⟩
  closed h := by cases h
  returned result h := by cases h

/-- The downloads move on. -/
lemma PipelineInv.download {downloads : State ScanBatch DownloadedBatch AppError}
    (hs : PipelineInv run items before s) (h : run.downloads.Step s.downloads downloads) :
    PipelineInv run items before { s with downloads } where
  downloads := hs.downloads.step h
  reconciled := hs.reconciled
  working hp := by
    obtain ⟨hopen, hown, taken, hsent, hscanned, hjoining⟩ := hs.working hp
    obtain ⟨hsame, new, hsent', hchannel', hreturned⟩ := step_channel h
    refine ⟨hsame.trans hopen, hown, taken, ?_, hscanned, fun hj => ?_⟩
    · simp only [hsent', hchannel', hsent, List.append_assoc]
    · obtain ⟨hempty, r, hr⟩ := hjoining hj
      obtain ⟨hr', rfl⟩ := hreturned r hr
      exact ⟨by simp only [hchannel', hempty, List.append_nil], r, hr'⟩
  closed hp := (step_channel h).1.trans (hs.closed hp)
  returned := hs.returned

/-- The scan goes on with what it has taken. -/
lemma pipelineInv_of_work {taken' : List DownloadedBatch}
    (hdownloads : Inv run.downloads items s'.downloads) (hopen : s'.downloads.isOpen = true)
    (hown : s'.ownFailure = false)
    (hsent : s'.downloads.sent = taken'.map .ok ++ s'.downloads.channel)
    (hscanned : ScannedSoFar before taken' s') (hreconciled : s'.reconciled <+: items)
    (hp : s'.phase.own = true ∨ s'.phase = .receiving) :
    PipelineInv run items before s' where
  downloads := hdownloads
  reconciled := hreconciled
  working _ := by
    refine ⟨hopen, hown, taken', hsent, hscanned, fun h => ?_⟩
    rw [h] at hp
    rcases hp with hp | hp <;> cases hp
  closed h := by
    rcases hp with hp | hp
    · rw [(ScanPhase.of_own hp).1] at h
      cases h
    · rw [hp] at h
      cases h
  returned result h := by
    rw [h] at hp
    rcases hp with hp | hp <;> cases hp

lemma endOf_concat (before : Option ℤ) (batches : List ScanBatch) (batch : ScanBatch) :
    endOf before (batches ++ [batch]) = some (batch.endHeight : ℤ) := by
  unfold endOf
  rw [List.getLast?_concat, Option.map_some, Option.some_or]

/-- **One step** of the pipeline. -/
lemma PipelineInv.step (hs : PipelineInv run items before s) (h : PipelineStep run s s') :
    PipelineInv run items before s' := by
  cases h with
  | download h => exact hs.download h
  | prepare hp =>
    obtain ⟨hopen, hown, taken, hsent, hscanned, -⟩ := hs.working (by rw [hp]; rfl)
    rw [ScannedSoFar, hp] at hscanned
    obtain ⟨rfl, hrec, hstored, hlast⟩ := hscanned
    exact pipelineInv_of_work hs.downloads hopen hown hsent ⟨hrec, hstored, hlast⟩ hs.reconciled
      (Or.inr rfl)
  | @receive downloaded rest hp hc =>
    obtain ⟨hopen, hown, taken, hsent, hscanned, -⟩ := hs.working (by rw [hp]; rfl)
    rw [ScannedSoFar, hp] at hscanned
    obtain ⟨hrec, hstored, hlast⟩ := hscanned
    have hsent' : s.downloads.sent = (taken ++ [downloaded]).map .ok ++ rest := by
      rw [hsent, hc, List.map_append, List.map_singleton, List.append_assoc,
        List.singleton_append]
    refine pipelineInv_of_work (hs.downloads.receive (.take hopen hc)) hopen hown hsent' ?_
      hs.reconciled (Or.inl rfl)
    simp only [ScannedSoFar, List.map_append, List.map_singleton]
    exact ⟨by rw [hrec], by rw [hstored, hrec]⟩
  | @receiveFailure error rest hp hc =>
    obtain ⟨hopen, hown, taken, hsent, hscanned, -⟩ := hs.working (by rw [hp]; rfl)
    rw [ScannedSoFar, hp] at hscanned
    obtain ⟨hrec, hstored, hlast⟩ := hscanned
    refine ⟨(hs.downloads.receive (.take hopen hc)).receive .close, hs.reconciled,
      (fun h => by cases h), fun _ => rfl, ?_⟩
    rintro _ ⟨⟩
    obtain ⟨more, hmore⟩ := hs.downloads.sent_prefix
    rw [hsent, hc, List.append_assoc, List.cons_append] at hmore
    obtain ⟨after, hitems, harrived, hrest, -⟩ := items_of_taken hmore.symm
    obtain ⟨batch, later, rfl, hbatch, -⟩ := delivered_error hrest
    refine Or.inr ⟨_, batch, later, hitems, harrived, not_arrived fun d hd => ?_, hrec, hstored⟩
    rw [hbatch] at hd
    cases hd
  | @scan downloaded attributed observedAt hp h =>
    obtain ⟨hopen, hown, taken, hsent, hscanned, -⟩ := hs.working (by rw [hp]; rfl)
    rw [ScannedSoFar, hp] at hscanned
    exact pipelineInv_of_work hs.downloads hopen hown hsent hscanned hs.reconciled
      (Or.inl rfl)
  | @reconcile batch attributed reconciliation db now hp h =>
    obtain ⟨hopen, hown, taken, hsent, hscanned, -⟩ := hs.working (by rw [hp]; rfl)
    rw [ScannedSoFar, hp] at hscanned
    obtain ⟨hbatches, hstored⟩ := hscanned
    have hkept := Pending.commit_scanned (reconcile_ok h).2
    refine pipelineInv_of_work hs.downloads hopen hown hsent ?_ ?_ (Or.inl rfl)
    · exact ⟨hbatches.symm, s.reconciled, hbatches, hkept.trans hstored⟩
    · exact hbatches ▸ hs.taken_prefix hsent
  | @queue batch reconciliation queued db now hp h =>
    obtain ⟨hopen, hown, taken, hsent, hscanned, -⟩ := hs.working (by rw [hp]; rfl)
    rw [ScannedSoFar, hp] at hscanned
    obtain ⟨hrec, earlier, hbatches, hstored⟩ := hscanned
    have hkept := (queue_frame_scanned now reconciliation.affectedAddressIds s.db).2
    rw [h] at hkept
    exact pipelineInv_of_work hs.downloads hopen hown hsent
      ⟨hrec, rfl, earlier, hbatches, hkept.trans hstored⟩ hs.reconciled (Or.inl rfl)
  | @record batch reconciliation queued metadata db now hp h =>
    obtain ⟨hopen, hown, taken, hsent, hscanned, -⟩ := hs.working (by rw [hp]; rfl)
    rw [ScannedSoFar, hp] at hscanned
    obtain ⟨hrec, hlast, earlier, hbatches, hstored⟩ := hscanned
    obtain ⟨current, transitions, -, hdb, hheight, -⟩ := recordSyncStatus_ok h
    refine pipelineInv_of_work hs.downloads hopen hown hsent ⟨hrec, ?_, ?_⟩ hs.reconciled
      (Or.inr rfl)
    · rw [hbatches, endOf_concat, hdb, ← hlast, ← hheight]
      rfl
    · rw [hbatches, endOf_concat, hlast, Option.getD_some]
  | @fail error hp =>
    refine ⟨hs.downloads.receive .close, hs.reconciled, (fun h => by cases h), fun _ => rfl, ?_⟩
    rintro _ ⟨⟩
    exact Or.inl rfl
  | @closed result hp hc hd =>
    obtain ⟨hopen, hown, taken, hsent, hscanned, -⟩ := hs.working (by rw [hp]; rfl)
    rw [ScannedSoFar, hp] at hscanned
    exact ⟨hs.downloads, hs.reconciled,
      fun _ => ⟨hopen, hown, taken, hsent, hscanned, fun _ => ⟨hc, result, hd⟩⟩,
      (fun h => by cases h), fun _ h => by cases h⟩
  | @join result hp hd =>
    obtain ⟨hopen, hown, taken, hsent, hscanned, hjoining⟩ := hs.working (by rw [hp]; rfl)
    rw [ScannedSoFar, hp] at hscanned
    obtain ⟨hrec, hstored, hlast⟩ := hscanned
    refine ⟨hs.downloads.receive .close, hs.reconciled, (fun h => by cases h), fun _ => rfl, ?_⟩
    rintro _ ⟨⟩
    have htaken : s.downloads.refused = false := by
      by_contra hrefused
      rw [Bool.not_eq_false] at hrefused
      rw [hs.downloads.refused hrefused] at hopen
      cases hopen
    obtain ⟨hall, hresult⟩ := hs.downloads.sent_of_returned hd htaken
    rw [hsent, (hjoining hp).1] at hall
    obtain ⟨after, hitems, harrived, hrest, hafter⟩ := items_of_taken hall.symm
    rw [hresult] at hafter
    rcases delivered_nil hrest with rfl | ⟨batch, later, e, rfl, hlost⟩
    · cases hafter
      rw [List.append_nil] at hitems
      exact ⟨hitems ▸ harrived, hrec.trans hitems.symm, hitems ▸ hstored, hitems ▸ hlast⟩
    · rw [(delivered_lost hlost).2] at hafter
      cases hafter
      refine Or.inr ⟨_, batch, later, hitems, harrived, not_arrived fun d hd => ?_, hrec, hstored⟩
      rw [hlost] at hd
      cases hd

/-- Another writer leaves the scan alone. -/
lemma PipelineInv.outside {db : Db} (hs : PipelineInv run items before s)
    (h : db.scanned = s.db.scanned) : PipelineInv run items before { s with db } where
  downloads := hs.downloads
  reconciled := hs.reconciled
  closed := hs.closed
  working hp := by
    obtain ⟨hopen, hown, taken, hsent, hscanned, hjoining⟩ := hs.working hp
    refine ⟨hopen, hown, taken, hsent, ?_, hjoining⟩
    simpa only [ScannedSoFar, h] using hscanned
  returned result hr := by
    have hright := hs.returned result hr
    rcases result with e | r
    · simpa only [ReturnedRight, h] using hright
    · simpa only [ReturnedRight, h] using hright

/-! ### Every run ends -/

lemma pipeline_work_step {rest : List ScanBatch} (hrest : run.downloads.Lists s.downloads.next rest)
    (h : PipelineStep run s s') : ∃ rest', run.downloads.Lists s'.downloads.next rest' ∧
      s'.downloads.work rest' + s'.phase.work < s.downloads.work rest + s.phase.work := by
  cases h with
  | download h =>
    obtain ⟨rest', hrest', hlt⟩ := work_step hrest h
    exact ⟨rest', hrest', Nat.add_lt_add_right hlt _⟩
  | receive hp hc | receiveFailure hp hc =>
    refine ⟨rest, hrest, ?_⟩
    simp only [State.work, PipelineState.return, hp, hc, ScanPhase.work, List.length_cons]
    omega
  | prepare hp | scan _ hp _ | reconcile _ hp _ | queue _ hp _ | record _ hp _ | closed hp _ _
  | join hp _ =>
    refine ⟨rest, hrest, ?_⟩
    simp only [State.work, PipelineState.return, hp, ScanPhase.work]
    omega
  | fail error hp =>
    refine ⟨rest, hrest, ?_⟩
    exact Nat.add_lt_add_left (ScanPhase.of_own hp).2 (s.downloads.work rest)

/-- Something can move until both sides have returned. -/
lemma PipelineInv.exists_step (hs : PipelineInv run items before s) (hdepth : 0 < run.depth)
    (h : s.phase.over = false ∨ ∀ r, s.downloads.phase ≠ .returned r) :
    ∃ s', PipelineStep run s s' := by
  have hwidth : 0 < run.downloads.width := lt_max_of_lt_right Nat.one_pos
  by_cases hown : s.phase.own = true
  · exact ⟨_, .fail (.wallet "") hown⟩
  have hgo (hroom : s.downloads.isOpen = true → s.downloads.channel.length < run.depth)
      (hr : ∀ r, s.downloads.phase ≠ .returned r) : ∃ s', PipelineStep run s s' := by
    obtain ⟨downloads, hstep⟩ := OrderedHandOff.exists_step hwidth hr hroom
    exact ⟨_, .download hstep⟩
  rcases hphase : s.phase with _ | _ | _ | _ | _ | _ | _ | result
  case receiving =>
    rcases hc : s.downloads.channel with _ | ⟨e | downloaded, rest⟩
    · by_cases hr : ∃ r, s.downloads.phase = .returned r
      · obtain ⟨r, hr⟩ := hr
        exact ⟨_, .closed hphase hc hr⟩
      · exact hgo (fun _ => by rwa [hc]) (not_exists.mp hr)
    · exact ⟨_, .receiveFailure hphase hc⟩
    · exact ⟨_, .receive hphase hc⟩
  case joining =>
    obtain ⟨-, -, -, -, -, hjoining⟩ := hs.working (by rw [hphase]; rfl)
    obtain ⟨-, r, hr⟩ := hjoining hphase
    exact ⟨_, .join hphase hr⟩
  case returned =>
    have hr : ∀ r, s.downloads.phase ≠ .returned r := by
      rcases h with h | h
      · rw [hphase] at h
        cases h
      · exact h
    refine hgo (fun hopen => ?_) hr
    rw [hs.closed (by rw [hphase]; rfl)] at hopen
    cases hopen
  all_goals
    rw [hphase] at hown
    exact absurd rfl hown

/-! ### Runs -/

lemma PipelineInv.runs {n : ℕ} (hs : PipelineInv run items before s) (h : PipelineRuns run s n s') :
    PipelineInv run items before s' := by
  induction h with
  | refl => exact hs
  | step _ hstep ih => exact ih.step hstep
  | outside _ hdb ih => exact ih.outside hdb

/-- The steps of a run are paid for by what there is to do. -/
lemma PipelineRuns.length_le {n : ℕ} {rest : List ScanBatch} (h : PipelineRuns run s n s')
    (hrest : run.downloads.Lists s.downloads.next rest) :
    n ≤ s.downloads.work rest + s.phase.work := by
  have hpaid : ∃ rest', run.downloads.Lists s'.downloads.next rest' ∧
      n + (s'.downloads.work rest' + s'.phase.work) ≤ s.downloads.work rest + s.phase.work := by
    induction h with
    | refl => exact ⟨rest, hrest, (Nat.zero_add _).le⟩
    | step _ hstep ih =>
      obtain ⟨rest₁, hrest₁, hle⟩ := ih
      obtain ⟨rest₂, hrest₂, hlt⟩ := pipeline_work_step hrest₁ hstep
      exact ⟨rest₂, hrest₂, by omega⟩
    | outside _ _ ih => exact ih
  obtain ⟨rest', -, hle⟩ := hpaid
  omega

/-- **The pipeline is a sequential scan**: however the downloads finish and whoever moves next, the
batches are handed over, reconciled and stored in height order up to the first that fails. -/
theorem pipeline_is_sequential_scan (run : PipelineRun) {start : ℕ} {first : ScanBatch}
    (hfinal : run.finalHeight < u32Max)
    (hfirst : nextScanBatch start run.finalHeight run.catchUpBatchSize = some first)
    (hdepth : 0 < run.depth) (db : Db) :
    ∃ batches, Downloads run.finalHeight run.catchUpBatchSize (some first) batches ∧
      (∀ h, (∃ b ∈ batches, b.Covers h) ↔ start ≤ h ∧ h ≤ run.finalHeight) ∧
      (batches.Pairwise fun a b => a.endHeight < b.startHeight) ∧
      ∀ n s, PipelineRuns run (.initial first db) n s →
        -- The hand-over: the successful prefix and the first failure, in order.
        s.downloads.sent <+: run.downloads.delivered batches ∧
        s.downloads.running ≤ max 1 run.concurrency ∧
        (s.downloads.refused = true → s.phase.over = true) ∧
        (∀ r, s.downloads.phase = .returned r → s.downloads.refused = false →
          s.downloads.sent = run.downloads.delivered batches) ∧
        -- The scan: what has been reconciled, and what a result says.
        s.reconciled <+: batches ∧
        (∀ ids height, s.phase = .returned (.ok (ids, height)) →
          (∀ b ∈ batches, (run.fetch b).arrived = true) ∧ s.reconciled = batches ∧
            height = run.finalHeight ∧ s.db.scanned = some (run.finalHeight : ℤ)) ∧
        (∀ e, s.phase = .returned (.error e) → s.ownFailure = false →
          ∃ done batch rest, batches = done ++ batch :: rest ∧
            (∀ b ∈ done, (run.fetch b).arrived = true) ∧ (run.fetch batch).arrived = false ∧
            s.reconciled = done ∧ s.db.scanned = endOf db.scanned done) ∧
        -- Every run ends, with both sides returned.
        n ≤ 12 * batches.length + 4 ∧
        ((∀ s', ¬PipelineStep run s s') →
          s.phase.over = true ∧ ∃ r, s.downloads.phase = .returned r) := by
  obtain ⟨batches, hd, ht, hlists⟩ := exists_lists run hfinal hfirst
  refine ⟨batches, hd, fun h => ht.covers, ht.increasing, fun n s hruns => ?_⟩
  have hs := (pipelineInv_initial hlists).runs hruns
  have hend : ∀ before, endOf before batches = some (run.finalHeight : ℤ) := fun before => by
    rcases List.eq_nil_or_concat' batches with rfl | ⟨earlier, last, rfl⟩
    · cases hlists
    · rw [endOf_concat, ht.last List.getLast?_concat]
  refine ⟨hs.downloads.sent_prefix, (max_comm run.concurrency 1) ▸ hs.downloads.running,
    fun hrefused => ?_, fun r hr hrefused => (hs.downloads.sent_of_returned hr hrefused).1,
    hs.reconciled, fun ids height hok => ?_, fun e herror hown => ?_, ?_, fun hstuck => ?_⟩
  · by_contra hover
    rw [Bool.not_eq_true] at hover
    have hopen := (hs.working hover).1
    rw [hs.downloads.refused hrefused] at hopen
    cases hopen
  · obtain ⟨harrived, hreconciled, hstored, hheight⟩ := hs.returned _ hok
    rw [hend] at hstored hheight
    exact ⟨harrived, hreconciled, hheight, hstored⟩
  · exact (hs.returned _ herror).resolve_left (by rw [hown]; exact Bool.false_ne_true)
  · have hle := hruns.length_le hlists
    simp only [PipelineState.initial, State.initial, State.work, List.map_nil, List.sum_nil,
      List.length_nil, ScanPhase.work] at hle
    omega
  · by_contra hmoving
    rw [not_and_or, not_exists, Bool.not_eq_true] at hmoving
    obtain ⟨s', hstep⟩ := hs.exists_step hdepth hmoving
    exact hstuck s' hstep

/-- Five heights in batches of two; the stream of the first batch ends early. -/
def endedStream : PipelineRun where
  config :=
    { catchUpThresholdBlocks := 1, catchUpBatchSize := 2, webhookReportConfirmations := 1
      finalityConfirmations := 10, requiredConfirmations := none }
  tipHeight := 5
  finalHeight := 5
  catchUpBatchSize := 2
  concurrency := 0
  depth := 4
  fetch batch := if batch.startHeight = 1 then .failed (.wallet "stream ended") else .blocks []

theorem pipeline_is_sequential_scan_ended_stream :
    ∃ n s, PipelineRuns endedStream (.initial ⟨1, 2⟩ (startDb endedStream.config "t0" [])) n s ∧
      s.phase = .returned (.error (.wallet "stream ended")) ∧
      ∃ batches done batch rest, Downloads 5 2 (some ⟨1, 2⟩) batches ∧
        batches = done ++ batch :: rest ∧ s.reconciled = done ∧
          (endedStream.fetch batch).arrived = false := by
  obtain ⟨batches, hd, -, -, hall⟩ := pipeline_is_sequential_scan endedStream (by decide)
    (show nextScanBatch 1 5 2 = some ⟨1, 2⟩ by decide) (by decide)
    (startDb endedStream.config "t0" [])
  have hinit :
      PipelineRuns endedStream (.initial ⟨1, 2⟩ (startDb endedStream.config "t0" [])) 0 _ := .refl
  have hspawn := hinit.step (.download (.spawn rfl Nat.one_pos rfl))
  have hpop := hspawn.step (.download (.pop rfl (Or.inl le_rfl) rfl))
  have hfinish := hpop.step (.download (.finishAwaited rfl))
  have hfailure := hfinish.step (.download (.failure rfl rfl))
  have hsend := hfailure.step (.download (.sendFailure rfl rfl (Nat.succ_pos 3)))
  have hreceived := (hsend.step (.prepare rfl)).step (.receiveFailure rfl rfl)
  obtain ⟨-, -, -, -, -, -, herr, -⟩ := hall _ _ hreceived
  obtain ⟨done, batch, rest, hbatches, -, hfailed, hdone, -⟩ := herr _ rfl rfl
  exact ⟨_, _, hreceived, rfl, batches, done, batch, rest, hd, hbatches, hdone, hfailed⟩

end ZcashPayment

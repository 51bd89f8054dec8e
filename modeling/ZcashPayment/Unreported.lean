import ZcashPayment.Invariants
import ZcashPayment.Interruptions

/-!
Which changes an iteration may leave unreported.

An operation marks the addresses it changed dirty in its own transaction, and the iteration
queues them afterwards from the ids the operation returned. Between the two the iteration
waits for the node in one place only: the revocation above a dropped tip is queued together
with the overlap. If the overlap fails there, the addresses stay dirty and no later iteration
knows their ids.
-/

namespace ZcashPayment

open Prog

/-- Every dirty address is among the ids. -/
structure DirtyWithin (ids : List ℕ) (db : Db) : Prop where
  kept : db.TotalsKept
  within : ∀ t ∈ db.addressTotals.rows, t.dirtyState = .dirty → t.addressId ∈ ids

variable {ids ids' : List ℕ} {db db' : Db} {now : Timestamp} {tip : ℤ} {finality : ℕ}
  {label : String} {p : Pending}

lemma DirtyWithin.mono (h : DirtyWithin ids db) (hi : ∀ a ∈ ids, a ∈ ids') : DirtyWithin ids' db :=
  ⟨h.kept, fun t ht hd => hi _ (h.within t ht hd)⟩

lemma DirtyWithin.congr (h : DirtyWithin ids db) (ht : db'.addressTotals = db.addressTotals)
    (hi : db'.issuedAddresses = db.issuedAddresses) : DirtyWithin ids db' := by
  refine ⟨fun a => ?_, ht ▸ h.within⟩
  rw [ht, Db.issued, hi]
  exact h.kept a

lemma DirtyWithin.stable (env : Env) (ids : List ℕ) :
    Stable env fun w => DirtyWithin ids w.db := by
  refine Stable.of_db fun new createdAt db a db' hw h => ⟨allocateFreshAddress_kept hw.kept h, ?_⟩
  obtain ⟨_, _, rfl⟩ := allocateFreshAddress_ok h
  intro t ht hd
  rcases List.mem_append.mp ht with ht | ht
  · exact hw.within t ht hd
  · rw [List.mem_singleton.mp ht] at hd
    cases hd

/-- A commit dirties affected addresses only. -/
lemma DirtyWithin.commit (h : DirtyWithin ids db)
    (hc : p.commit tip finality now label db = .ok db') :
    DirtyWithin (ids ++ p.affected) db' := by
  refine ⟨commit_kept h.kept hc, fun t' ht' hd => ?_⟩
  rw [Pending.commit_ok hc] at ht'
  obtain ⟨t, ht, rfl⟩ := List.mem_map.mp ht'
  have hstep := p.retotaled_step tip finality now label db t
  rw [Pending.retotaled_addressId]
  by_cases hsame : (p.retotaled tip finality now label db t).content = t.content
  · exact List.mem_append_left _ (h.within t ht (hstep.kept hsame ▸ hd))
  · exact List.mem_append_right _ (hstep.affected hsame)

/-- A commit that changes no content dirties nothing. -/
lemma DirtyWithin.commit_silent (h : DirtyWithin ids db)
    (hc : p.commit tip finality now label db = .ok db')
    (hs : ∀ a, (db'.addressTotals.find? a).map AddressTotals.content =
      (db.addressTotals.find? a).map AddressTotals.content) : DirtyWithin ids db' := by
  refine ⟨commit_kept h.kept hc, fun t' ht' hd => ?_⟩
  rw [Pending.commit_ok hc] at ht'
  obtain ⟨t, ht, rfl⟩ := List.mem_map.mp ht'
  have hsame := hs t.addressId
  rw [Pending.commit_find? hc, Table.find?_of_mem ht] at hsame
  rw [Pending.retotaled_addressId]
  have hstep := p.retotaled_step tip finality now label db t
  exact h.within t ht (hstep.kept (Option.some.inj hsame) ▸ hd)

/-- Rebuilding the arrays is silent. -/
lemma DirtyWithin.required (h : DirtyWithin ids db) (required : Option ℕ) :
    DirtyWithin ids (applyRequiredConfirmations db required) := by
  refine ⟨applyRequired_kept required h.kept, fun t' ht' hd => ?_⟩
  unfold applyRequiredConfirmations at ht'
  split_ifs at ht' with heq
  · exact h.within t' ht' hd
  · obtain ⟨t, ht, rfl⟩ := List.mem_map.mp ht'
    exact h.within t ht hd

/-! ### The queue -/

lemma queueOne_not_dirty (now : Timestamp) {acc : List ℕ × Db} {a : ℕ} (hi : acc.2.issued a)
    {t : AddressTotals} (ht : (queueOne now acc a).2.addressTotals.find? a = some t) :
    t.dirtyState ≠ .dirty := by
  obtain ⟨issued, hissued⟩ := Option.isSome_iff_exists.mp hi
  unfold queueOne at ht
  rcases hf : acc.2.addressTotals.find? a with _ | t₀
  · simp [hissued, hf] at ht
  · simp only [hissued, hf] at ht
    split_ifs at ht with h1 h2 h3
    · rw [hf] at ht
      cases ht
      exact h1
    all_goals
      simp only [find?_setTotals, addressTotals_insertDelivery, hf, Option.map_some, if_true] at ht
      cases ht
      simp [cleaned, markedQueued, requeued]

lemma foldl_queueOne_not_dirty (now : Timestamp) {acc : List ℕ × Db} (ids : List ℕ)
    (hk : acc.2.TotalsKept)
    (hd : ∀ a t, acc.2.addressTotals.find? a = some t → t.dirtyState = .dirty → a ∈ ids) :
    ∀ a t, (ids.foldl (queueOne now) acc).2.addressTotals.find? a = some t →
      t.dirtyState ≠ .dirty := by
  induction ids generalizing acc with
  | nil => exact fun a t ht hdirty => absurd (hd a t ht hdirty) (by simp)
  | cons b ids ih =>
    refine ih (queueOne_kept now b hk) fun a t ht hdirty => ?_
    by_cases hab : a = b
    · subst hab
      refine absurd hdirty (queueOne_not_dirty now ?_ ht)
      have hk' := queueOne_kept now a hk a
      rw [ht, Db.issued, queueOne_issuedAddresses] at hk'
      exact hk'.symm
    · rw [(queueOne_of_ne now acc hab).1] at ht
      exact (List.mem_cons.mp (hd a t ht hdirty)).resolve_left hab

/-- **The queue leaves no address dirty** when it is handed all that are. -/
lemma DirtyWithin.queue (h : DirtyWithin ids db) (now : Timestamp) :
    DirtyWithin [] (queueWebhookDeliveriesForDirtyAddresses now ids db).2 := by
  unfold queueWebhookDeliveriesForDirtyAddresses
  split_ifs with h0
  · rw [List.isEmpty_iff.mp h0] at h
    exact h
  · refine ⟨foldl_queueOne_kept now (idSet ids) h.kept, fun t ht hd => ?_⟩
    refine absurd hd (foldl_queueOne_not_dirty now (idSet ids) h.kept (fun a t ht hd => ?_) _ t
      (Table.find?_of_mem ht))
    rw [mem_idSet, ← Table.key_of_find? ht]
    exact h.within t (Table.mem_of_find? ht) hd

/-! ### The stages -/

/-- The revocation above the sampled tip changes no address's total or array. -/
def RevocationSilent (env : Env) (config : Config) (lastScannedHeight : ℤ) (T : ℕ) (w : World) :
    Prop :=
  lastScannedHeight > T → ∀ now out db', revokeMinedReceiptsAboveTip T config.finalityConfirmations
    now (w.ticked env).db = .ok (out, db') →
      ∀ a, (db'.addressTotals.find? a).map AddressTotals.content =
        ((w.ticked env).db.addressTotals.find? a).map AddressTotals.content

/-- How an iteration may end early: killed, with nothing dirty, or at the overlap, where `φ`
decides. -/
def Left (env : Env) (φ : Prop) (e : Halt) (w : World) : Prop :=
  DirtyWithin [] w.db ∨ Killed env e ∨ (∃ error, e = .failed .overlap error) ∧
    (φ → DirtyWithin [] w.db)

abbrev Anything {α : Type} (_ : α) : Prop := True

section stages

variable {env : Env} {config : Config} {φ : Prop} {T birthday : ℕ} {metadata : ServiceMetadata}
  {α : Type} {awaiting : Await}

/-- A transaction that runs from a world that is known. -/
lemma transaction_from {op : Timestamp → Db → Except AppError (α × Db)} {Q : α → World → Prop}
    {E : Halt → World → Prop} {w₀ : World}
    (hok : ∀ now a db, op now (w₀.ticked env).db = .ok (a, db) →
      Q a ((w₀.ticked env).committed db))
    (herr : ∀ e, EndedAt env awaiting e → E e (w₀.ticked env)) :
    SyncTriple Anything Anything (fun w => w = w₀) (transaction env awaiting op) Q E := by
  refine SyncTriple.bind (R := fun t w => w = w₀.ticked env ∧ t = w.time) ?_ fun t => ?_
  · intro w hw
    obtain rfl := hw ⟨fun _ _ => trivial, fun _ _ => trivial⟩
    unfold tick
    by_cases hk : env.killed (w.time + 1 + env.delay w.time)
    · simp only [hk, if_true]
      exact fun _ => herr _ (Or.inl ⟨rfl, _, hk⟩)
    · simp only [hk, if_false, Bool.false_eq_true]
      exact fun _ => ⟨rfl, rfl⟩
  · intro w hw
    obtain ⟨rfl, rfl⟩ := hw ⟨fun _ _ => trivial, fun _ _ => trivial⟩
    unfold commitAt
    rcases h : op (env.clock (w₀.ticked env).time) (w₀.ticked env).db with e | ⟨a, db⟩
    · exact fun _ => herr _ (Or.inr ⟨e, rfl⟩)
    · exact fun _ => hok _ a db h

lemma revokeAboveTip_dirty {L : ℤ} {w₀ : World} (h : DirtyWithin [] w₀.db) :
    SyncTriple Anything Anything (fun w => w = w₀) (revokeAboveTip env config L T)
      (fun out w => DirtyWithin out.affectedAddressIds w.db ∧
        (RevocationSilent env config L T w₀ → DirtyWithin [] w.db))
      (Left env φ) := by
  have ht : DirtyWithin [] (w₀.ticked env).db := (DirtyWithin.stable env []).tick w₀ h
  unfold revokeAboveTip
  refine SyncTriple.ite (fun hgt => transaction_from (fun now out db hok => ?_) fun e _ =>
    Or.inl ht) fun _ => SyncTriple.pure fun w hw => ?_
  · obtain ⟨hids, hc⟩ := revoke_ok hok
    exact ⟨hids ▸ ht.commit hc, fun hs => ht.commit_silent hc (hs hgt now out db hok)⟩
  · subst hw
    exact ⟨h, fun _ => h⟩

/-- Reading a range dirties what the reconciliation returns. -/
lemma reconcileRange_dirty {batch : ScanBatch} (hb : batch.startHeight ≤ batch.endHeight)
    (ids : List ℕ) :
    SyncTriple Anything Anything (fun w => DirtyWithin ids w.db)
      (reconcileRange env config awaiting T batch)
      (fun out w => DirtyWithin (ids ++ out.affectedAddressIds) w.db)
      fun e w => DirtyWithin ids w.db ∧ EndedAt env awaiting e := by
  refine reconcileRange_rule (F := fun _ w => DirtyWithin ids w.db) hb (DirtyWithin.stable env ids)
    (fun w hw => hw) (fun _ => DirtyWithin.stable env ids) (fun _ w hw => hw) ?_
  intro find t answered observedAt attributed w now out db hw _ _ _ hok
  obtain ⟨hids, hc⟩ := reconcile_ok hok
  exact hids ▸ hw.commit hc

/-- The overlap is the one place where an error leaves what the revocation has dirtied. -/
lemma reconcileOverlap_dirty {overlap : Option ScanBatch}
    (ho : ∀ batch, overlap = some batch → batch.startHeight ≤ batch.endHeight) (ids : List ℕ) :
    SyncTriple Anything Anything
      (fun w => DirtyWithin ids w.db ∧ (φ → DirtyWithin [] w.db))
      (reconcileOverlap env config T overlap)
      (fun out w => DirtyWithin (ids ++ out.affectedAddressIds) w.db) (Left env φ) := by
  rcases overlap with _ | batch
  · exact SyncTriple.pure fun w hw => hw.1.mono fun a ha => List.mem_append_left _ ha
  · have hJ : Stable env fun w => DirtyWithin ids w.db ∧ (φ → DirtyWithin [] w.db) := by
      refine (DirtyWithin.stable env ids).and ⟨?_, fun _ _ hw => hw, fun _ _ hw => hw⟩
      exact fun w hw hφ => (DirtyWithin.stable env []).tick w (hw hφ)
    refine (reconcileRange_rule
      (F := fun _ w => DirtyWithin ids w.db ∧ (φ → DirtyWithin [] w.db)) (ho batch rfl) hJ
      (fun w hw => hw) (fun _ => hJ) (fun _ w hw => hw) ?_).halts fun e w hw => ?_
    · intro find t answered observedAt attributed w now out db hw _ _ _ hok
      obtain ⟨hids, hc⟩ := reconcile_ok hok
      exact hids ▸ hw.1.commit hc
    · rcases hw.2 with hk | hf
      · exact Or.inr (Or.inl hk)
      · exact Or.inr (Or.inr ⟨hf, hw.1.2⟩)

lemma queue_dirty (ids : List ℕ) :
    SyncTriple Anything Anything (fun w => DirtyWithin ids w.db)
      (queueWebhookDeliveries env awaiting ids) (fun _ w => DirtyWithin [] w.db) (Left env φ) :=
  (queue_rule (DirtyWithin.stable env ids) fun _ now hw => hw.queue now).halts
    fun _ _ hw => Or.inr (Or.inl hw.2)

/-- What writes neither totals nor addresses dirties nothing. -/
lemma frame_dirty {op : Timestamp → Db → Except AppError (α × Db)}
    (hop : ∀ now db a db', op now db = .ok (a, db') → db'.addressTotals = db.addressTotals ∧
      db'.issuedAddresses = db.issuedAddresses) :
    SyncTriple Anything Anything (fun w => DirtyWithin [] w.db) (transaction env awaiting op)
      (fun _ w => DirtyWithin [] w.db) (Left env φ) :=
  (transaction_rule (DirtyWithin.stable env []) fun _ _ _ _ hw hok =>
    hw.congr (hop _ _ _ _ hok).1 (hop _ _ _ _ hok).2).halts fun _ _ hw => Or.inl hw.1

lemma status_dirty {state : SyncState} {reason : String} {tip L : ℤ} :
    SyncTriple Anything Anything (fun w => DirtyWithin [] w.db)
      (transaction env awaiting fun now => recordSyncStatus state reason tip L now)
      (fun _ w => DirtyWithin [] w.db) (Left env φ) := by
  refine frame_dirty fun now db m db' hok => ?_
  obtain ⟨_, _, -, rfl, -⟩ := recordSyncStatus_ok hok
  exact ⟨rfl, rfl⟩

lemma scanBatch_dirty {batch : ScanBatch} (hb : batch.startHeight ≤ batch.endHeight) :
    SyncTriple Anything Anything (fun w => DirtyWithin [] w.db) (scanBatch env config T batch)
      (fun _ w => DirtyWithin [] w.db) (Left env φ) := by
  refine ((reconcileRange_dirty hb []).halts fun _ _ hw => Or.inl hw.1).bind fun out => ?_
  exact (queue_dirty out.affectedAddressIds).bind fun _ => status_dirty.bind
    fun _ => SyncTriple.pure fun w hw => hw

lemma scanForward_dirty {next catchUp size : ℕ} (hT : T ≤ u32Max) :
    SyncTriple Anything Anything (fun w => DirtyWithin [] w.db)
      (scanForward env config metadata T (planScanRange next T catchUp size))
      (fun _ w => DirtyWithin [] w.db) (Left env φ) := by
  unfold scanForward
  rcases planScanRange_cases next T catchUp size with
    ⟨-, hf, -⟩ | ⟨first, -, hf, hfinal, hstart, hend⟩
  · rw [hf]
    exact SyncTriple.pure fun w hw => hw
  · rw [hf, hfinal]
    obtain ⟨h1, h2⟩ := hend hT
    exact (batches_rule 0 (fun _ w => DirtyWithin [] w.db) hT
      (fun batch _ hb _ => scanBatch_dirty hb) (fun _ _ hw => hw) (fun _ _ hw => Or.inl hw) _ _
      (Nat.zero_le _) (hstart ▸ h1) h2).post fun _ _ hw => hw.2.2

lemma syncMempool_dirty {L : ℕ} :
    SyncTriple Anything Anything (fun w => DirtyWithin [] w.db) (syncMempool env config T L)
      (fun _ w => DirtyWithin [] w.db) (Left env φ) := by
  have hJ := DirtyWithin.stable env []
  unfold syncMempool
  refine SyncTriple.ite (fun _ => ?_) fun _ => SyncTriple.pure fun w hw => hw
  refine (mempool_rule (K := fun _ w => DirtyWithin [] w.db)
    (F := fun _ _ _ w => DirtyWithin [] w.db) hJ (fun _ _ hw _ => hw) (fun _ => hJ)
    (fun _ _ hw => hw) (fun _ _ _ hw _ => hw) (fun _ _ _ => hJ) (fun _ _ _ _ hw => hw) ?_
    (fun out => DirtyWithin.stable env out.affectedAddressIds)
    fun out w now hw => hw.queue now).halts fun e w hw => ?_
  · intro s raw find observedAt attributed revoke w out db hw _ _ _ hok
    obtain ⟨cutoff, -, hids, hc⟩ := mempool_ok hok
    exact hids ▸ hw.commit hc
  · rcases hw with hw | ⟨out, -, hk⟩
    · exact Or.inl hw.1
    · exact Or.inr (Or.inl hk)

lemma logReorg_dirty {rewind : ℕ} {reorg : ReceiptRangeReconciliation} {queued : List ℕ} :
    SyncTriple Anything Anything (fun w => DirtyWithin [] w.db)
      (logReorg env metadata T rewind reorg queued) (fun _ w => DirtyWithin [] w.db)
      (Left env φ) := by
  refine SyncTriple.ite (fun _ => frame_dirty fun now db a db' hok => ?_)
    fun _ => SyncTriple.pure fun w hw => hw
  obtain ⟨db₁, hok, heq⟩ := map_ok hok
  cases heq
  obtain ⟨events, rfl⟩ := recordReorgEvent_ok hok
  exact ⟨rfl, rfl⟩

lemma markCatchingUp_dirty {plan : ScanRangePlan} :
    SyncTriple Anything Anything (fun w => DirtyWithin [] w.db)
      (markCatchingUp env metadata T plan) (fun _ w => DirtyWithin [] w.db) (Left env φ) := by
  unfold markCatchingUp
  split
  · exact status_dirty.bind fun _ => SyncTriple.pure fun w hw => hw
  · exact SyncTriple.pure fun w hw => hw

lemma advanceMaturity_dirty :
    SyncTriple Anything Anything (fun w => DirtyWithin [] w.db) (advanceMaturity env config T)
      (fun _ w => DirtyWithin [] w.db) (Left env φ) := by
  refine SyncTriple.bind (R := fun ids w => DirtyWithin ids w.db)
    ((transaction_rule (DirtyWithin.stable env []) fun w now ids db hw hok => ?_).halts
      fun _ _ hw => Or.inl hw.1) fun ids =>
    (queue_dirty ids).bind fun _ => SyncTriple.pure fun w hw => hw
  obtain ⟨rfl, hc⟩ := maturity_ok hok
  exact hw.commit hc

lemma finishSync_dirty {L : ℕ} {observed : List ℕ} :
    SyncTriple Anything Anything (fun w => DirtyWithin [] w.db)
      (finishSync env config T L observed) (fun _ w => DirtyWithin [] w.db) (Left env φ) :=
  advanceMaturity_dirty.bind fun _ => syncMempool_dirty.bind fun _ => status_dirty.bind
    fun _ => SyncTriple.pure fun _ hw => hw

/-- **An iteration from its sampled tip**: whatever it marks dirty it has queued when it ends,
unless the overlap fails after a revocation that is not silent. -/
lemma syncAt_dirty (env : Env) (config : Config) (birthday : ℕ) (metadata : ServiceMetadata)
    {w₀ : World} (h : DirtyWithin [] w₀.db) (hT : T ≤ u32Max) :
    SyncTriple Anything Anything (fun w => w = w₀) (syncAt env config birthday metadata T)
      (fun _ w => DirtyWithin [] w.db)
      (Left env (RevocationSilent env config metadata.lastScannedHeight T w₀)) := by
  refine (revokeAboveTip_dirty h).bind fun cleanup => ?_
  refine (reconcileOverlap_dirty (fun batch ho => reorgOverlapBatch_le ho)
    cleanup.affectedAddressIds).bind fun overlap => ?_
  refine SyncTriple.pre ?_ fun w (hw : DirtyWithin _ w.db) =>
    hw.mono fun a ha => mem_idSet.mpr ha
  exact (queue_dirty _).bind fun queued => logReorg_dirty.bind fun _ => markCatchingUp_dirty.bind
    fun _ => (scanForward_dirty hT).bind fun _ => finishSync_dirty

end stages

/-! ### Runs -/

variable {env : Env} {config : Config} {birthday : ℕ} {w : World}

lemma sampleTip_dirty (env : Env) (config : Config) :
    SyncTriple Anything Anything (fun w => DirtyWithin [] w.db) (sampleTip env config)
      (fun r w => DirtyWithin [] w.db ∧ r.2 ≤ u32Max) fun _ w => DirtyWithin [] w.db := by
  have hJ := DirtyWithin.stable env []
  refine SyncTriple.bind (R := fun _ w => DirtyWithin [] w.db) ?_ fun m => ?_
  · refine ((transaction_rule hJ fun w now m db hw hok => ?_).halts fun _ _ hw => hw.1).bind
      fun m => ((transaction_rule hJ fun w now a db hw hok => ?_).halts fun _ _ hw => hw.1).bind
        fun _ => SyncTriple.pure fun w hw => hw
    · obtain ⟨rfl, -⟩ := ensureServiceMetadataRow_ok hok
      exact hw.congr rfl rfl
    · cases hok
      exact hw.required config.requiredConfirmations
  · refine ((await_rule hJ).halts fun _ _ hw => hw.1).bind fun height =>
      SyncTriple.pure fun w hw => ⟨hw.1, ?_⟩
    have := height.isLt
    unfold u32Max
    omega

lemma within_anything (w : World) : w.Within Anything Anything :=
  ⟨fun _ _ => trivial, fun _ _ => trivial⟩

/-- The revocation of the iteration that starts in `w` changes nothing, if its overlap fails. -/
def SilentOverlapFailure (env : Env) (config : Config) (birthday : ℕ) (w : World) : Prop :=
  ∀ m T w₁ error, sampleTip env config { w with answers := [], scans := [] } = (.ok (m, T), w₁) →
    (w.iterate env config birthday).1 = .error (.failed .overlap error) →
      RevocationSilent env config m.lastScannedHeight T w₁

/-- **One iteration** has queued what it has changed, unless it was killed. -/
lemma iterate_dirty (h : DirtyWithin [] w.db)
    (hsilent : SilentOverlapFailure env config birthday w) :
    DirtyWithin [] (w.iterate env config birthday).2.db ∨
      (w.iterate env config birthday).1 = .error .killed := by
  have hsample := sampleTip_dirty env config
    { w with answers := [], scans := [] } fun _ => h
  unfold SilentOverlapFailure at hsilent
  unfold World.iterate syncOnce at *
  simp only [bind] at *
  rcases hs : sampleTip env config { w with answers := [], scans := [] } with ⟨e | ⟨m, T⟩, w₁⟩
  all_goals
    simp only [hs] at hsample hsilent ⊢
  · exact Or.inl (hsample (within_anything w₁))
  · obtain ⟨h₁, hT⟩ := hsample (within_anything w₁)
    have hsync := syncAt_dirty env config birthday m h₁ hT w₁ fun _ => rfl
    rcases hr : syncAt env config birthday m T w₁ with ⟨e | t, w₂⟩ <;>
      simp only [hr] at hsync hsilent ⊢
    · rcases hsync (within_anything w₂) with hd | ⟨rfl, -⟩ | ⟨⟨error, rfl⟩, hd⟩
      · exact Or.inl hd
      · exact Or.inr rfl
      · exact Or.inl (hd (hsilent m T w₁ error rfl rfl))
    · exact Or.inl (hsync (within_anything w₂))

/-- A restart queues all that is dirty. -/
lemma restart_dirty (now : Timestamp) (hk : db.TotalsKept) :
    DirtyWithin [] (recoverStartupWebhookState now db) := by
  have hall : DirtyWithin (dirtyAddresses (recoverInterruptedWebhookDeliveries now db).2)
      (recoverInterruptedWebhookDeliveries now db).2 := by
    refine ⟨hk, fun t ht hd => ?_⟩
    exact List.mem_map.mpr ⟨t, List.mem_filter.mpr ⟨ht, by simpa using hd⟩, rfl⟩
  exact hall.queue now

lemma DirtyWithin.next (h : DirtyWithin [] w.db)
    (hsilent : SilentOverlapFailure env config birthday w) :
    DirtyWithin [] (w.next env config birthday).db := by
  have hd := iterate_dirty h hsilent
  have hk : Guarded Anything Anything (fun w => w.db.TotalsKept)
      (w.iterate env config birthday).2 :=
    Triple.final (totalsKept_maintained config Anything).synced fun _ => h.kept
  unfold World.next
  rcases hi : w.iterate env config birthday with ⟨e | t, w'⟩ <;> rw [hi] at hd hk
  · cases e with
    | killed => exact restart_dirty _ (hk (within_anything w'))
    | failed awaiting error => exact hd.resolve_right (by simp)
    | stuck => exact hd.resolve_right (by simp)
  · exact hd.resolve_right (by simp)

/-- Every world of a service that has started on an empty ledger keeps its totals. -/
lemma serviceAt_kept (env : Env) (config : Config) (birthday : ℕ) (createdAt : Timestamp)
    (requests : List NewAddress) (k : ℕ) :
    (serviceAt env config birthday createdAt requests k).db.TotalsKept :=
  (totalsKept_maintained config Anything).reached
    (startDb_inv (fun _ => 0) config 0 createdAt requests).1.kept fun _ _ _ _ => trivial

/-- **No change is left unreported.** From any world that keeps its totals and has no dirty
address, in a run whose iterations fail at the overlap only after a silent revocation, every
iteration leaves no address dirty, whether it completes or not. -/
theorem no_dirty_address_after_an_iteration (env : Env) (config : Config) (birthday : ℕ)
    (w : World) (n : ℕ) (hkept : w.db.TotalsKept)
    (hstart : ∀ t ∈ w.db.addressTotals.rows, t.dirtyState ≠ .dirty)
    (hsilent : ∀ k ≤ n, SilentOverlapFailure env config birthday (w.at env config birthday k)) :
    ∀ t ∈ (w.at env config birthday (n + 1)).db.addressTotals.rows, t.dirtyState ≠ .dirty := by
  have hrun : ∀ k ≤ n + 1, DirtyWithin [] (w.at env config birthday k).db := by
    intro k hk
    induction k with
    | zero => exact ⟨hkept, fun t ht hd => absurd hd (hstart t ht)⟩
    | succ k ih => exact (ih (by omega)).next (hsilent k (by omega))
  intro t ht hd
  exact absurd ((hrun (n + 1) le_rfl).within t ht hd) (by simp)

/-- The batch that fails leaves nothing dirty, and neither do the iterations around it. -/
theorem no_dirty_address_around_a_failed_batch :
    (((serviceAt failedBatchEnv testConfig 1 "t0" [testAddress] 0).at failedBatchEnv testConfig
      1 1).iterate failedBatchEnv testConfig 1).1 =
        .error (.failed .batch (.wallet "unavailable")) ∧
    ∀ t ∈ ((serviceAt failedBatchEnv testConfig 1 "t0" [testAddress] 0).at failedBatchEnv testConfig
      1 (2 + 1)).db.addressTotals.rows, t.dirtyState ≠ .dirty := by
  have houtcome : ∀ k ≤ 2, (((serviceAt failedBatchEnv testConfig 1 "t0" [testAddress] 0).at
      failedBatchEnv testConfig 1 k).iterate failedBatchEnv testConfig 1).1 =
        if k = 1 then .error (.failed .batch (.wallet "unavailable")) else .ok (10 + k) := by
    decide +kernel
  have hstart : ∀ t ∈ (serviceAt failedBatchEnv testConfig 1 "t0" [testAddress]
      0).db.addressTotals.rows, t.dirtyState ≠ .dirty := by
    decide +kernel
  refine ⟨houtcome 1 (by decide), no_dirty_address_after_an_iteration failedBatchEnv testConfig 1 _
    2 (serviceAt_kept failedBatchEnv testConfig 1 "t0" [testAddress] 0) hstart
    fun k hk m T w₁ error _ hfail => ?_⟩
  rw [houtcome k hk] at hfail
  split_ifs at hfail
  simp at hfail

/-- **A change stays unreported.** The revocation above the dropped tip is committed, the failed
overlap ends the iteration before it is queued, and the iteration that completes next does not
touch the address. -/
theorem dirty_address_after_a_completed_iteration :
    (∀ t ∈ (serviceAt droppedTipEnv testConfig 1 "t0" [testAddress] 0).db.addressTotals.rows,
      t.dirtyState ≠ .dirty) ∧
    ((serviceAt droppedTipEnv testConfig 1 "t0" [testAddress] 1).iterate droppedTipEnv testConfig
      1).1 = .error (.failed .overlap (.wallet "unavailable")) ∧
    ((serviceAt droppedTipEnv testConfig 1 "t0" [testAddress] 2).iterate droppedTipEnv testConfig
      1).1 = .ok 10 ∧
    (∃ t ∈ (serviceAt droppedTipEnv testConfig 1 "t0" [testAddress] 3).db.addressTotals.rows,
      t.dirtyState = .dirty ∧ t.currentTotalZat = 0) ∧
    (serviceAt droppedTipEnv testConfig 1 "t0" [testAddress] 3).db.webhookDeliveries.rows.map
      (·.totalReceivedZat) = [5] := by
  refine ⟨?_, ?_, ?_, ?_, ?_⟩
  all_goals decide +kernel

end ZcashPayment

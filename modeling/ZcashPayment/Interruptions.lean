import ZcashPayment.Reorgs

/-!
Iterations that fail or are killed.

The content of every height is fixed here; tips move, and any iteration may end early, between
any two of its transactions or at any answer it waits for. Two kinds of iterations leave
something the next one does not repair: one that ends early after it has revoked rows below
the reach of the overlap window, and one that completes at a tip below rows that an
interrupted batch has left without recording its progress.
-/

namespace ZcashPayment

variable {env : Env} {config : Config} {birthday : ℕ} {C : ChainView} {T n : ℕ} {db : Db}
  {payee : Pool → Bytes → Option ℕ} {w : World}

lemma recoverStartup_frame (now : Timestamp) (db : Db) :
    (recoverStartupWebhookState now db).receipts = db.receipts ∧
      (recoverStartupWebhookState now db).scanned = db.scanned :=
  queue_frame_scanned now _ _

/-- An iteration through the revocation above the tip it samples. -/
def revokeAboveSampledTip (env : Env) (config : Config) : SyncM ReceiptRangeReconciliation :=
  sampleTip env config >>= fun r => revokeAboveTip env config r.1.lastScannedHeight r.2

/-- The iteration that starts here commits its revocation above the tip. -/
def RevocationCommits (env : Env) (config : Config) (w : World) : Prop :=
  ∃ r w', revokeAboveSampledTip env config { w with answers := [], scans := [] } = (.ok r, w')

/-- An iteration that ends before its revocation commits ends there. -/
lemma iterate_of_halted {e : Halt} {w' : World}
    (h : revokeAboveSampledTip env config { w with answers := [], scans := [] } =
      (.error e, w')) :
    w.iterate env config birthday = (.error e, w') := by
  unfold revokeAboveSampledTip at h
  unfold World.iterate syncOnce syncAt
  simp only [bind] at h ⊢
  rcases hs : sampleTip env config { w with answers := [], scans := [] } with ⟨e₁ | r, w₁⟩
  all_goals simp only [hs] at h ⊢
  · cases h
    rfl
  · simp only [h]

/-- Until the revocation commits, the receipts and the scanned height are those of before. -/
lemma OfLedger.revokeAboveSampledTip_rule {I : Db → Prop} (hI : OfLedger I) {L : ℤ}
    {A : ℕ × Answer → Prop} {S : Scan → Prop} (hL : ∀ db, I db → db.scanned = some L) :
    SyncTriple A S (fun w => I w.db) (revokeAboveSampledTip env config) (fun _ _ => True)
      fun _ w => I w.db := by
  refine SyncTriple.bind (R := fun _ w => I w.db) ?_ fun r => ?_
  · refine (hI.readMetadata_rule hL).bind fun m => ?_
    refine ((await_rule (hI.stable.fact _)).halts fun e w hw => hw.1.1).bind fun tip => ?_
    exact SyncTriple.pure fun w hw => hw.1.1
  · refine SyncTriple.ite (fun _ => ?_) fun _ => SyncTriple.pure fun _ _ => trivial
    exact (transaction_rule hI.stable fun _ _ _ _ _ _ => trivial).halts fun e w hw => hw.1

/-- What an iteration that ended early leaves, also after a restart. -/
lemma iterate_halted {L₀ : ℕ} {calm clean : Prop}
    (hr : Ready payee C config birthday T L₀ calm clean w.db)
    (hA : ∀ p ∈ (w.next env config birthday).answers, Sees C T p.2)
    (hS : ∀ s ∈ (w.next env config birthday).scans, ScanKnows payee s)
    (hno : ¬∃ t, (w.iterate env config birthday).1 = .ok t) :
    Resumable payee C config birthday T L₀ calm (w.next env config birthday).db := by
  have h := (syncOnce_mirrors : SyncTriple (SeesAll C T) (ScanKnows payee)
    (fun w => Ready payee C config birthday T L₀ calm clean w.db) (syncOnce env config birthday)
    _ _) { w with answers := [], scans := [] } fun _ => hr
  unfold World.next at *
  rcases hi : w.iterate env config birthday with ⟨e | t, w'⟩
  · rw [show syncOnce env config birthday { w with answers := [], scans := [] } = (.error e, w')
      from hi] at h
    rw [hi] at hA hS
    cases e with
    | killed =>
      obtain ⟨hrec, hsc⟩ := recoverStartup_frame (env.clock w'.time) w'.db
      exact Resumable.ofLedger hrec hsc (h ⟨hA, hS⟩)
    | failed awaiting error => exact h ⟨hA, hS⟩
    | stuck => exact h ⟨hA, hS⟩
  · exact absurd ⟨t, by rw [hi]⟩ hno

/-- What holds between iterations: the heights too deep for the window are mirrored. -/
structure Between (payee : Pool → Bytes → Option ℕ) (C : ChainView) (config : Config)
    (birthday : ℕ) (db : Db) : Prop where
  from_birthday : MinedFrom birthday db
  stored : ∃ L : ℕ, db.scanned = some (L : ℤ) ∧ L ≤ u32Max ∧
    MirrorsOn payee C birthday (L + 1 - config.window) db

lemma Between.ofLedger : OfLedger (Between payee C config birthday) := by
  rintro db db' hr hs ⟨hb, L, hL, hu, hon⟩
  refine ⟨?_, L, hs.trans hL, hu, fun n h1 h2 => (hon n h1 h2).congr hr⟩
  rw [MinedFrom, hr]
  exact hb

/-- An iteration that ends before its revocation commits leaves what it found. -/
lemma Between.of_uncommitted (h : Between payee C config birthday w.db)
    (hno : ¬RevocationCommits env config w) :
    Between payee C config birthday (w.next env config birthday).db := by
  obtain ⟨L, hL, -⟩ := h.stored
  have hI : OfLedger fun db => Between payee C config birthday db ∧ db.scanned = some (L : ℤ) :=
    Between.ofLedger.and fun db db' _ hs hdb => hs.trans hdb
  rcases hr : revokeAboveSampledTip env config { w with answers := [], scans := [] } with
    ⟨e | r, w'⟩
  · have hrule : SyncTriple (fun _ => True) (fun _ => True) _ (revokeAboveSampledTip env config)
        _ _ := hI.revokeAboveSampledTip_rule fun db hdb => hdb.2
    have hstart : Guarded (fun _ => True) (fun _ => True)
        (fun w => Between payee C config birthday w.db ∧ w.db.scanned = some (L : ℤ))
        { w with answers := [], scans := [] } := fun _ => ⟨h, hL⟩
    have hkept : Between payee C config birthday w'.db :=
      (hrule.stops hstart hr ⟨fun _ _ => trivial, fun _ _ => trivial⟩).1
    unfold World.next
    rw [iterate_of_halted hr]
    cases e with
    | killed =>
      obtain ⟨hrec, hsc⟩ := recoverStartup_frame (env.clock w'.time) w'.db
      exact Between.ofLedger hrec hsc hkept
    | failed awaiting error => exact hkept
    | stuck => exact hkept
  · exact absurd ⟨r, w', hr⟩ hno

/-- An iteration that ends early has nothing to lose: no row lies above its tip and below
what the window reads again. -/
def Calm (config : Config) (T : ℕ) (db : Db) : Prop :=
  ∀ L, db.scanned = some L → ∀ row ∈ db.receipts.rows, isActiveMined row = true →
    ¬((T : ℤ) < row.minedHeight ∧ row.minedHeight ≤ L - max config.finalityConfirmations 1)

/-- An iteration that completes finds no row above a tip that has not dropped. -/
def Clean (T : ℕ) (db : Db) : Prop :=
  ∀ L, db.scanned = some L → L ≤ T → MinedUpTo T db

lemma Between.ready (h : Between payee C config birthday db) (T : ℕ) :
    ∃ L₀, Ready payee C config birthday T L₀ (Calm config T db) (Clean T db) db := by
  obtain ⟨hb, L, hL, hu, hon⟩ := h
  refine ⟨L, hb, ⟨hL, hu⟩, hon.mono (by omega), fun hc => ⟨hon, fun row hrow hact hin => ?_⟩,
    fun hc hle => hc L hL (by omega)⟩
  refine hc L hL row hrow hact ⟨hin.1, ?_⟩
  have := hin.2
  unfold Config.window at this
  omega

lemma Resumable.between {L₀ : ℕ} {calm : Prop}
    (h : Resumable payee C config birthday T L₀ calm db) (hc : calm) :
    Between payee C config birthday db := by
  obtain ⟨hb, L, hL, hu, -, hon⟩ := h
  exact ⟨hb, L, hL, hu, hon hc⟩

lemma Completed.between {clean : Prop} (h : Completed payee C config birthday T clean db) :
    Between payee C config birthday db := by
  obtain ⟨L, hL, hu, hle, -⟩ := h.stored
  have hw := one_le_window config
  exact ⟨h.from_birthday, L, hL, hu, h.on.mono (by omega)⟩

/-- **One iteration of a run**, however it ends. -/
lemma Between.next (h : Between payee C config birthday w.db)
    (hA : ∀ p ∈ (w.next env config birthday).answers, Sees C T p.2)
    (hS : ∀ s ∈ (w.next env config birthday).scans, ScanKnows payee s)
    (hcalm : (¬∃ t, (w.iterate env config birthday).1 = .ok t) →
      RevocationCommits env config w → Calm config T w.db) :
    Between payee C config birthday (w.next env config birthday).db := by
  obtain ⟨L₀, hready⟩ := h.ready T
  by_cases hok : ∃ t, (w.iterate env config birthday).1 = .ok t
  · obtain ⟨t, ht⟩ := hok
    exact (iterate_completed hready hA hS ht).2.between
  by_cases hcommits : RevocationCommits env config w
  · exact (iterate_halted hready hA hS hok).between (hcalm hok hcommits)
  · exact h.of_uncommitted hcommits

lemma startDb_between (payee : Pool → Bytes → Option ℕ) (C : ChainView) (config : Config)
    (birthday : ℕ) (createdAt : Timestamp) (requests : List NewAddress) :
    Between payee C config birthday (startDb config createdAt requests) := by
  have h := startDb_ready payee C config birthday 0 True True createdAt requests
  exact ⟨h.from_birthday, 0, h.stored.1, h.stored.2, (h.calm trivial).1⟩

/-- **Interruptions are repaired.** In a run whose iterations end early after their revocation
only when `Calm` and complete only when `Clean`, every iteration that completes leaves the
ledger equal to the chain up to its tip. -/
theorem completed_iteration_holds_chain (env : Env) (config : Config) (birthday : ℕ)
    (createdAt : Timestamp) (requests : List NewAddress) (C : ChainView) (T : ℕ → ℕ) (n : ℕ)
    (hsees : ∀ k ≤ n, ∀ p ∈ (serviceAt env config birthday createdAt requests (k + 1)).answers,
      Sees C (T k) p.2)
    (hknown : ∀ k ≤ n, ∀ s ∈ (serviceAt env config birthday createdAt requests (k + 1)).scans,
      ScanKnows (findAddressIdByReceiverFingerprint
        (serviceAt env config birthday createdAt requests (n + 1)).db) s)
    (hcalm : ∀ k < n, (¬∃ t, ((serviceAt env config birthday createdAt requests k).iterate env
      config birthday).1 = .ok t) →
        RevocationCommits env config (serviceAt env config birthday createdAt requests k) →
        Calm config (T k) (serviceAt env config birthday createdAt requests k).db)
    (hclean : Clean (T n) (serviceAt env config birthday createdAt requests n).db)
    (hok : ∃ t, ((serviceAt env config birthday createdAt requests n).iterate env config
      birthday).1 = .ok t) :
    HoldsChain C birthday (T n) (serviceAt env config birthday createdAt requests (n + 1)).db := by
  set payee := findAddressIdByReceiverFingerprint
    (serviceAt env config birthday createdAt requests (n + 1)).db
  have hrun : ∀ k ≤ n, Between payee C config birthday
      (serviceAt env config birthday createdAt requests k).db := by
    intro k hk
    induction k with
    | zero => exact startDb_between payee C config birthday createdAt requests
    | succ k ih =>
      exact (ih (by omega)).next (hsees k (by omega)) (hknown k (by omega)) (hcalm k (by omega))
  obtain ⟨L₀, hready⟩ := (hrun n le_rfl).ready (T n)
  obtain ⟨t, ht⟩ := hok
  exact (iterate_completed hready (hsees n le_rfl) (hknown n le_rfl) ht).2.holdsChain hclean

/-! ### Two runs -/

/-- A payment at height 11; the fetch of the batch that holds it fails once. -/
def failedBatchEnv : Env :=
  scriptedEnv (fun t => if t ≤ 18 then 10 else 12) (fun _ => minedAt 11) fun t => t = 26

/-- The iteration after the failed one finds the payment. -/
theorem payment_found_after_a_failed_batch :
    HoldsChain (minedAt 11) 1 12 (serviceAt failedBatchEnv testConfig 1 "t0" [testAddress] 3).db ∧
      ((serviceAt failedBatchEnv testConfig 1 "t0" [testAddress] 1).iterate failedBatchEnv
        testConfig 1).1 = .error (.failed .batch (.wallet "unavailable")) := by
  have hrows : ∀ k ≤ 2,
      (serviceAt failedBatchEnv testConfig 1 "t0" [testAddress] k).db.receipts.rows = [] := by
    decide +kernel
  have hall : ∀ k ≤ 2, ((serviceAt failedBatchEnv testConfig 1 "t0" [testAddress]
      (k + 1)).answers.all fun p => answersAs (minedAt 11) (if k = 0 then 10 else 12) p.2) =
        true := by
    decide +kernel
  refine ⟨completed_iteration_holds_chain failedBatchEnv testConfig 1 "t0" [testAddress]
    (minedAt 11) (fun k => if k = 0 then 10 else 12) 2 ?_ ?_ ?_ ?_ ⟨12, ?_⟩, ?_⟩
  · exact fun k hk p hp => sees_of_answersAs (List.all_eq_true.mp (hall k hk) p hp)
  · decide +kernel
  · intro k hk _ _ L _ row hrow
    rw [hrows k hk.le] at hrow
    cases hrow
  · intro L _ _ row hrow
    rw [hrows 2 le_rfl] at hrow
    cases hrow
  · decide +kernel
  · decide +kernel

/-- A payment at height 8 is scanned at a tip of 10. Then the tip is 7 for one iteration, whose
overlap fetch fails, and 10 again. -/
def droppedTipEnv : Env :=
  scriptedEnv (fun t => if t ≤ 18 then 10 else if t ≤ 23 then 7 else 10) (fun _ => minedAt 8)
    fun t => t = 23

/-- The receipt that `droppedTipEnv` pays. -/
def droppedReceipt : IncomingReceipt := ⟨"aa", 8, false, .orchard, 0, 5, [1]⟩

/-- **A receipt is lost.** The revocation above the dropped tip is committed, the failed fetch
ends the iteration, and the stored scanned height keeps the next iteration from reading the
height again. -/
theorem receipt_lost_after_a_failed_overlap :
    (∀ k ≤ 2, ∀ p ∈ (serviceAt droppedTipEnv testConfig 1 "t0" [testAddress] (k + 1)).answers,
      Sees (minedAt 8) (if k = 1 then 7 else 10) p.2) ∧
    ((serviceAt droppedTipEnv testConfig 1 "t0" [testAddress] 1).iterate droppedTipEnv testConfig
      1).1 = .error (.failed .overlap (.wallet "unavailable")) ∧
    ((serviceAt droppedTipEnv testConfig 1 "t0" [testAddress] 2).iterate droppedTipEnv testConfig
      1).1 = .ok 10 ∧
    ¬HoldsChain (minedAt 8) 1 10
      (serviceAt droppedTipEnv testConfig 1 "t0" [testAddress] 3).db := by
  have hall : ∀ k ≤ 2, ((serviceAt droppedTipEnv testConfig 1 "t0" [testAddress]
      (k + 1)).answers.all fun p => answersAs (minedAt 8) (if k = 1 then 7 else 10) p.2) =
        true := by
    decide +kernel
  have hnone : ∀ row ∈ (serviceAt droppedTipEnv testConfig 1 "t0" [testAddress] 3).db.receipts.rows,
      isActiveMined row = false := by
    decide +kernel
  refine ⟨fun k hk p hp => sees_of_answersAs (List.all_eq_true.mp (hall k hk) p hp),
    by decide +kernel, by decide +kernel, fun h => ?_⟩
  obtain ⟨row, hrow, hrec⟩ := h.complete droppedReceipt 1 (by unfold ChainView.Has; decide +kernel)
    (by decide) (by decide) (by decide +kernel)
  have hact := hrec.active
  rw [hnone row hrow] at hact
  cases hact

end ZcashPayment

import ZcashPayment.WebhookRuns

/-!
What the receiver ends up with.

Along every run the outbox of every address stays right, and while no delivery fails for good
an address that is not dirty stays settled. When nothing is outstanding any more the newest
delivery is the acknowledged one, the receiver has processed it, and nothing it processed is
newer. A permanent failure of the newest delivery is what can break this.
-/

namespace ZcashPayment

variable {cutoffOf : Timestamp → Except AppError Timestamp} {finality : ℕ}
  {s s' : System} {act : Action} {acts : List Action} {a : ℕ} {t : AddressTotals}

/-! ### What a receiver holds -/

lemma received_append (log : List (EventId × Content)) (e : EventId × Content) (a : ℕ) :
    received (log ++ [e]) a =
      if e.1.addressId = a ∧ (received log a).all (fun h => h.1 < e.1.stateVersion) then
        some (e.1.stateVersion, e.2)
      else received log a := by
  unfold received
  rw [List.foldl_append]
  rfl

/-- **A receiver holds the newest event it has processed.** -/
lemma received_spec (log : List (EventId × Content)) (a : ℕ) :
    (received log a = none ∧ ∀ e ∈ log, e.1.addressId ≠ a) ∨
      ∃ e ∈ log, e.1.addressId = a ∧ received log a = some (e.1.stateVersion, e.2) ∧
        ∀ e' ∈ log, e'.1.addressId = a → e'.1.stateVersion ≤ e.1.stateVersion := by
  induction log using List.reverseRecOn with
  | nil => exact Or.inl ⟨rfl, by simp⟩
  | append_singleton log e ih =>
    rw [received_append]
    by_cases ha : e.1.addressId = a
    · right
      rcases ih with ⟨hn, hother⟩ | ⟨b, hb, hba, hr, hmax⟩
      · refine ⟨e, by simp, ha, by simp [hn, ha], fun e' he' ha' => ?_⟩
        rcases List.mem_append.mp he' with he' | he'
        · exact absurd ha' (hother e' he')
        · rw [List.mem_singleton.mp he']
      · by_cases hlt : b.1.stateVersion < e.1.stateVersion
        · refine ⟨e, by simp, ha, by simp [hr, ha, hlt], fun e' he' ha' => ?_⟩
          rcases List.mem_append.mp he' with he' | he'
          · exact (hmax e' he' ha').trans hlt.le
          · rw [List.mem_singleton.mp he']
        · refine ⟨b, by simp [hb], hba, by simp [hr, hlt], fun e' he' ha' => ?_⟩
          rcases List.mem_append.mp he' with he' | he'
          · exact hmax e' he' ha'
          · rw [List.mem_singleton.mp he']
            omega
    · rw [if_neg fun h => ha h.1]
      rcases ih with ⟨hn, hother⟩ | ⟨b, hb, hba, hr, hmax⟩
      · refine Or.inl ⟨hn, fun e' he' => ?_⟩
        rcases List.mem_append.mp he' with he' | he'
        · exact hother e' he'
        · rw [List.mem_singleton.mp he']
          exact ha
      · refine Or.inr ⟨b, by simp [hb], hba, hr, fun e' he' ha' => ?_⟩
        rcases List.mem_append.mp he' with he' | he'
        · exact hmax e' he' ha'
        · rw [List.mem_singleton.mp he'] at ha'
          exact absurd ha' ha

/-! ### Runs -/

lemma System.run_cons {s s'' : System}
    (h : System.run cutoffOf finality (act :: acts) s = some s'') :
    ∃ s', s.step cutoffOf finality act = some s' ∧
      System.run cutoffOf finality acts s' = some s'' := by
  rw [System.run] at h
  exact Option.bind_eq_some_iff.mp h

/-- **Invariant along every run.** -/
lemma SystemRight.run (h : SystemRight s) (hr : System.run cutoffOf finality acts s = some s') :
    SystemRight s' ∧ s'.db.issuedAddresses = s.db.issuedAddresses := by
  induction acts generalizing s with
  | nil =>
    cases hr
    exact ⟨h, rfl⟩
  | cons act acts ih =>
    obtain ⟨s₁, hstep, hr⟩ := System.run_cons hr
    have hs := System.step_spec h.toSystemKept hstep
    obtain ⟨h', hi⟩ := ih (hs.right h) hr
    exact ⟨h', hi.trans hs.issued⟩

/-- Every address is settled, and no delivery has failed for good. -/
def AllSettled (s : System) : Prop :=
  ∀ a t, s.db.addressTotals.find? a = some t →
    Settled t (s.db.deliveriesOf a) ∧ NoFailures (s.db.deliveriesOf a)

lemma AllSettled.step {C : Considered} (h : SystemRight s) (ha : AllSettled s)
    (hs : SystemStep false C s s') :
    AllSettled s' := by
  intro a t' ht'
  obtain ⟨t, ht, hstep⟩ := hs.address_of h.toSystemKept ht'
  obtain ⟨hset, hno⟩ := ha a t ht
  exact ⟨hstep.settled (h.right a t ht) hno hset, hstep.noFailures (h.right a t ht) hno⟩

lemma AllSettled.run (h : SystemRight s) (ha : AllSettled s)
    (hf : ∀ act ∈ acts, act.isPermanentFailure = false)
    (hr : System.run cutoffOf finality acts s = some s') : AllSettled s' := by
  induction acts generalizing s with
  | nil =>
    cases hr
    exact ha
  | cons act acts ih =>
    obtain ⟨s₁, hstep, hr⟩ := System.run_cons hr
    have hs := System.step_spec h.toSystemKept hstep
    rw [hf act List.mem_cons_self] at hs
    exact ih (hs.right h) (ha.step h hs) (fun b hb => hf b (List.mem_cons_of_mem act hb)) hr

/-- The start: totals of zero, nothing queued. -/
lemma startDb_outbox (config : Config) (createdAt : Timestamp) (requests : List NewAddress) :
    (startDb config createdAt requests).TotalsKept ∧
      (startDb config createdAt requests).webhookDeliveries.rows = [] ∧
      ∀ t ∈ (startDb config createdAt requests).addressTotals.rows,
        ∃ b, t = { addressId := b, lastChangedAt := createdAt } := by
  refine issueAll_induction (fun db => db.TotalsKept ∧ db.webhookDeliveries.rows = [] ∧
    ∀ t ∈ db.addressTotals.rows, ∃ b, t = { addressId := b, lastChangedAt := createdAt }) ?_
    (fun new db a db' hi h => ?_) requests
  · simp only [ensureServiceMetadata, ensureServiceMetadataRow, Db.fresh, bind, Except.bind,
      pure, Except.pure]
    unfold applyRequiredConfirmations
    split_ifs
    all_goals exact ⟨fun _ => rfl, rfl, by simp⟩
  · have hk := allocateFreshAddress_kept hi.1 h
    obtain ⟨_, _, rfl⟩ := allocateFreshAddress_ok h
    refine ⟨hk, hi.2.1, fun t ht => ?_⟩
    rcases List.mem_append.mp ht with ht | ht
    · exact hi.2.2 t ht
    · exact ⟨a, List.mem_singleton.mp ht⟩

lemma startSystem_right (config : Config) (createdAt : Timestamp) (requests : List NewAddress) :
    SystemRight (startSystem config createdAt requests) ∧
      AllSettled (startSystem config createdAt requests) ∧
      ∀ a t, (startSystem config createdAt requests).db.addressTotals.find? a = some t →
        t.content = initialContent := by
  obtain ⟨hk, hd, ht⟩ := startDb_outbox config createdAt requests
  have hds : ∀ a, (startSystem config createdAt requests).db.deliveriesOf a = [] := by
    intro a
    simp [Db.deliveriesOf, startSystem, hd]
  have hnone : ∀ d, d ∉ (startSystem config createdAt requests).db.webhookDeliveries.rows := by
    intro d hmem
    rw [show (startSystem config createdAt requests).db.webhookDeliveries.rows = [] from hd]
      at hmem
    simp at hmem
  refine ⟨⟨⟨hk, fun d h => absurd h (hnone d), by simp [startSystem],
    fun d h => absurd h (hnone d), fun d h => absurd h (hnone d)⟩, fun a t hf => ?_⟩,
    fun a t hf => ?_, fun a t hf => ?_⟩
  all_goals obtain ⟨b, rfl⟩ := ht t (Table.mem_of_find? hf)
  · rw [hds]
    exact ⟨⟨by simp, by simp, by simp, by simp, by simp, by simp⟩, by simp, fun _ => rfl, by simp⟩
  · rw [hds]
    exact ⟨fun _ => rfl, by simp [NoFailures]⟩
  · rfl

/-! ### Convergence -/

/-- A settled address with nothing outstanding was reported to a receiver that has processed
every success. -/
lemma received_of_settled (h : SystemRight s) (ha : AllSettled s)
    (ht : s.db.addressTotals.find? a = some t) (hd : t.dirtyState ≠ .dirty)
    (ho : ∀ d ∈ s.db.deliveriesOf a, d.deliveryState.outstanding = false) :
    (∃ v, received s.log a = some (v, t.content)) ∨
      (received s.log a = none ∧ t.content = initialContent) := by
  have hright := h.right a t ht
  obtain ⟨hset, hno⟩ := ha a t ht
  have hbase := hset hd
  -- Every processed event of the address is one of its deliveries.
  have hlogged : ∀ e ∈ s.log, e.1.addressId = a →
      ∃ d ∈ s.db.deliveriesOf a, d.eventId = e.1 ∧ d.content = e.2 := by
    intro e he hea
    obtain ⟨d, hmem, hde, hdc⟩ := h.logged e he
    exact ⟨d, mem_deliveriesOf.mpr ⟨hmem, by rw [← h.events d hmem, hde, hea]⟩, hde, hdc⟩
  rcases hn : newest (s.db.deliveriesOf a) with _ | d
  · right
    have hnil := newest_eq_none.mp hn
    rw [hnil] at hright hbase hlogged
    refine ⟨?_, hbase.trans hright.baseline_of_nil⟩
    rcases received_spec s.log a with ⟨hr, -⟩ | ⟨e, he, hea, -⟩
    · exact hr
    · obtain ⟨d, hmem, -⟩ := hlogged e he hea
      simp at hmem
  · left
    obtain ⟨hmem, hmax⟩ := newest_mem hn
    have hst : d.deliveryState = .succeeded := by
      have h1 := ho d hmem
      have h2 := hno d hmem
      cases hst : d.deliveryState <;> simp_all [DeliveryState.outstanding]
    have hcontent : t.content = d.content :=
      hbase.trans (hright.baseline_of_newest hn (hno d hmem))
    have hda : d.eventId.addressId = a := by
      rw [h.events d (mem_deliveriesOf.mp hmem).1, (mem_deliveriesOf.mp hmem).2]
    have hlog := h.succeeded d (mem_deliveriesOf.mp hmem).1 hst
    rcases received_spec s.log a with ⟨-, hother⟩ | ⟨e, he, hea, hr, hmax'⟩
    · exact absurd hda (hother _ hlog)
    · obtain ⟨d', hmem', hde', hdc'⟩ := hlogged e he hea
      have hle : d.eventId.stateVersion ≤ e.1.stateVersion := hmax' _ hlog hda
      have hle' := hright.version_le hmem' hmem (hmax d' hmem')
      have heq : d' = d := hright.eq_of_version hmem' hmem (by rw [hde'] at hle' ⊢; omega)
      exact ⟨e.1.stateVersion, by rw [hr, ← hdc', heq, hcontent]⟩

/-- **Webhook convergence.** In every reachable state a receiver holds the content of every
address that is not dirty and has nothing outstanding, or has applied nothing and the content
is the one the address started with; and no action moves the acknowledged event backwards. -/
theorem webhook_convergence (cutoffOf : Timestamp → Except AppError Timestamp) (finality : ℕ)
    (config : Config) (createdAt : Timestamp) (requests : List NewAddress)
    (acts : List Action) (s : System)
    (hnofail : ∀ act ∈ acts, act.isPermanentFailure = false)
    (hrun : System.run cutoffOf finality acts (startSystem config createdAt requests) = some s) :
    (∀ a t, s.db.addressTotals.find? a = some t → t.dirtyState ≠ .dirty →
      (∀ d ∈ s.db.deliveriesOf a, d.deliveryState.outstanding = false) →
      (∃ v, received s.log a = some (v, t.content)) ∨
        (received s.log a = none ∧
          ∃ t₀, (startSystem config createdAt requests).db.addressTotals.find? a = some t₀ ∧
            t.content = t₀.content)) ∧
    ∀ act s', act.isPermanentFailure = false → s.step cutoffOf finality act = some s' →
      ∀ a t, s.db.addressTotals.find? a = some t →
        ∃ t', s'.db.addressTotals.find? a = some t' ∧
          ∀ e, t.lastNotifiedEventId = some e →
            ∃ e', t'.lastNotifiedEventId = some e' ∧ e.stateVersion ≤ e'.stateVersion := by
  obtain ⟨hstart, hsettled, hinit⟩ := startSystem_right config createdAt requests
  obtain ⟨hright, hissued⟩ := hstart.run hrun
  have hall := hsettled.run hstart hnofail hrun
  refine ⟨fun a t ht hd ho => ?_, fun act s' _ hstep a t ht => ?_⟩
  · refine (received_of_settled hright hall ht hd ho).imp_right fun ⟨hr, hc⟩ => ⟨hr, ?_⟩
    have hsome : ((startSystem config createdAt requests).db.addressTotals.find? a).isSome := by
      rw [hstart.kept a, Db.issued, ← hissued, ← Db.issued, ← hright.kept a, ht]
      rfl
    obtain ⟨t₀, ht₀⟩ := Option.isSome_iff_exists.mp hsome
    exact ⟨t₀, ht₀, hc.trans (hinit a t₀ ht₀).symm⟩
  · obtain ⟨t', ht', hstep'⟩ := (System.step_spec hright.toSystemKept hstep).address a t ht
    exact ⟨t', ht', fun e he => hstep'.acked_mono (hright.right a t ht) he⟩

/-- The result of an attempt, as the worker reports it. -/
def testAttempt (deliveryId : ℕ) : Attempt :=
  ⟨deliveryId, "t5", some 200, some "ok", none, 12⟩

/-- A receipt is seen, its event is delivered, and a reorg takes it back and is delivered. -/
def deliveredTwice : List Action :=
  [.ledger "t1" (.applyAttributedReceipts [minedReceipt 1 "aa" 5 8 3 true] 10),
    .queue "t2" [1], .claim "t3", .ledger "t4" (.revokeMinedReceiptsAboveTip 7), .queue "t4" [1],
    .process 1, .success "t5" (testAttempt 1), .claim "t6", .recover "t7", .claim "t8",
    .process 2, .process 1, .success "t9" (testAttempt 2)]

theorem webhook_convergence_after_a_reorg :
    ∃ s, System.run .ok 2 deliveredTwice (startSystem testConfig "t0" [testAddress]) = some s ∧
      ∃ t v, s.db.addressTotals.find? 1 = some t ∧ received s.log 1 = some (v, t.content) := by
  have hrun : ((System.run .ok 2 deliveredTwice
      (startSystem testConfig "t0" [testAddress])).any fun s =>
        (s.db.addressTotals.find? 1).any (fun t => t.dirtyState ≠ .dirty) &&
          (s.db.deliveriesOf 1).all (fun d => !d.deliveryState.outstanding) &&
          (received s.log 1).isSome) = true := by decide
  obtain ⟨s, hs, hall⟩ := (Option.any_eq_true _ _).mp hrun
  simp only [Bool.and_eq_true, List.all_eq_true, Bool.not_eq_true'] at hall
  obtain ⟨⟨ht, hout⟩, hsome⟩ := hall
  obtain ⟨t, ht, hd⟩ := (Option.any_eq_true _ _).mp ht
  rcases (webhook_convergence .ok 2 testConfig "t0" [testAddress] deliveredTwice s
    (by simp [deliveredTwice, Action.isPermanentFailure]) hs).1 1 t ht (of_decide_eq_true hd)
    hout with ⟨v, hv⟩ | ⟨hn, -⟩
  · exact ⟨s, hs, t, v, ht, hv⟩
  · rw [hn] at hsome
    cases hsome

end ZcashPayment

import ZcashPayment.Chronology
import ZcashPayment.DeliveryWorker
import ZcashPayment.LedgerTotals
import ZcashPayment.QueueSpec

/-!
The life of a delivery.

What one act does to the deliveries is one of two things: it moves rows between the outstanding
states and adds queued ones, or it records one attempt of a row in `sending`. Counts, their
bound and the final states follow from that. A call records its attempt unless the time of the
next one has no text.
-/

namespace ZcashPayment

variable {config : DeliveryConfig} {w w' : Worker} {d : WebhookDelivery} {r : Reply} {db : Db}
  {count : ℕ}

/-! ### The delay -/

/-- The delay after the attempt that follows `count` others, in unbounded arithmetic. -/
def exactDelay (config : DeliveryConfig) (count : ℕ) : ℕ :=
  min (config.webhookRetryDelaySeconds * 2 ^ count) config.webhookRetryMaxDelaySeconds

lemma endOfTime_lt : Instant.endOfTime < maxI64 := by decide

/-- **The delay is exact**, or both it and the exact one reach beyond the year 9999. -/
lemma nextRetryDelaySeconds_cases (config : DeliveryConfig) (hcount : count < maxU32) :
    nextRetryDelaySeconds config count = exactDelay config count ∨
      Instant.endOfTime ≤ exactDelay config count ∧
        Instant.endOfTime ≤ nextRetryDelaySeconds config count := by
  have hbase := config.delay_mem
  have hcap := config.maxDelay_mem
  have hend := endOfTime_lt
  unfold nextRetryDelaySeconds exactDelay saturatingMul
  simp only [min_eq_left hcount.le]
  have hu64 : config.webhookRetryMaxDelaySeconds ≤ maxU64 := by
    unfold maxU64
    omega
  split_ifs with h63
  · have hsat : maxU64 ≤ config.webhookRetryDelaySeconds * maxU64 :=
      Nat.le_mul_of_pos_left _ hbase.1
    rw [min_eq_right hsat, min_eq_right hu64]
    rcases Nat.le_total config.webhookRetryMaxDelaySeconds
      (config.webhookRetryDelaySeconds * 2 ^ count) with hle | hle
    · exact Or.inl (min_eq_right hle).symm
    · have hpow : 2 ^ 63 ≤ config.webhookRetryDelaySeconds * 2 ^ count :=
        (Nat.pow_le_pow_right (by omega) h63).trans (Nat.le_mul_of_pos_left _ hbase.1)
      have hlarge : Instant.endOfTime ≤ config.webhookRetryDelaySeconds * 2 ^ count := by
        unfold maxI64 at hend
        omega
      rw [min_eq_left hle]
      exact Or.inr ⟨hlarge, hlarge.trans hle⟩
  · refine Or.inl ?_
    rw [min_assoc, min_eq_right hu64]

lemma retryAt_error {clock : Instant} {delay : ℕ}
    (h : ¬clock.toSeconds + min delay maxI64 < Instant.endOfTime) :
    ∃ e, retryAt clock delay = .error e := by
  have hnone : clock.addSeconds (min delay maxI64) = none := by
    rw [← Instant.addSeconds_isSome] at h
    exact Option.not_isSome_iff_eq_none.mp h
  refine ⟨.wallet "webhook retry delay overflowed timestamp", ?_⟩
  rw [retryAt, hnone]
  rfl

/-- **The time of the next attempt** is the exact one where it has a text. -/
lemma retryAt_spec (config : DeliveryConfig) (hcount : count < maxU32) (clock : Instant) :
    (∃ next : Instant, retryAt clock (nextRetryDelaySeconds config count) = .ok next.rfc3339 ∧
        next.toNanos = clock.toNanos + exactDelay config count * 1000000000 ∧
        clock.toSeconds + exactDelay config count < Instant.endOfTime) ∨
      (∃ e, retryAt clock (nextRetryDelaySeconds config count) = .error e) ∧
        ¬clock.toSeconds + exactDelay config count < Instant.endOfTime := by
  have hend := endOfTime_lt
  rcases nextRetryDelaySeconds_cases config hcount with heq | ⟨hexact, hcode⟩
  · rw [heq]
    by_cases hfits : clock.toSeconds + exactDelay config count < Instant.endOfTime
    · have hsome : (clock.addSeconds (exactDelay config count)).isSome = true :=
        Instant.addSeconds_isSome.mpr hfits
      obtain ⟨next, hnext⟩ := Option.isSome_iff_exists.mp hsome
      have hmin : min (exactDelay config count) maxI64 = exactDelay config count := by omega
      refine Or.inl ⟨next, ?_, Instant.addSeconds_toNanos hnext, hfits⟩
      rw [retryAt, hmin, hnext]
      rfl
    · have hmin : ¬clock.toSeconds + min (exactDelay config count) maxI64 < Instant.endOfTime := by
        omega
      exact Or.inr ⟨retryAt_error hmin, hfits⟩
  · have hmin : ¬clock.toSeconds + min (nextRetryDelaySeconds config count) maxI64 <
        Instant.endOfTime := by omega
    exact Or.inr ⟨retryAt_error hmin, by omega⟩

lemma shouldPermanentlyFail_iff (hcount : count < config.webhookMaxAttempts) :
    shouldPermanentlyFail config count = true ↔ config.webhookMaxAttempts ≤ count + 1 := by
  have hmax := config.attempts_mem.2
  have h1 : min count maxU32 = count := by
    unfold maxU32
    omega
  have h2 : min (count + 1) maxU32 = count + 1 := by
    unfold maxU32
    omega
  rw [shouldPermanentlyFail, h1, h2, decide_eq_true_iff]

/-! ### What one act does to the deliveries -/

/-- The attempts recorded of a delivery. -/
def Db.attemptsOf (db : Db) (deliveryId : ℕ) : ℕ :=
  db.webhookDeliveryAttempts.countP fun a => a.deliveryId = deliveryId

/-- Rows move between outstanding states, and queued ones are added. -/
structure Moved (db db' : Db) : Prop where
  attempts : db'.webhookDeliveryAttempts = db.webhookDeliveryAttempts
  rows : ∃ (f : WebhookDelivery → WebhookDelivery) (new : List WebhookDelivery),
    db'.webhookDeliveries.rows = db.webhookDeliveries.rows.map f ++ new ∧
    (∀ d ∈ db.webhookDeliveries.rows, (f d).deliveryId = d.deliveryId ∧
      (f d).attemptCount = d.attemptCount ∧
      ((f d).deliveryState = d.deliveryState ∨
        d.deliveryState.outstanding = true ∧ (f d).deliveryState.outstanding = true)) ∧
    ∀ d ∈ new, d.deliveryState = .queued ∧ d.attemptCount = 0

/-- One attempt of a delivery is recorded, and queued rows are added. -/
structure AttemptRecorded (outcome : Attempt) (state : DeliveryState) (next : Option Timestamp)
    (db db' : Db) : Prop where
  attempts : ∃ a, a.deliveryId = outcome.deliveryId ∧
    db'.webhookDeliveryAttempts = db.webhookDeliveryAttempts ++ [a]
  rows : ∃ new, db'.webhookDeliveries.rows =
      db.webhookDeliveries.rows.map (fun d =>
        if d.deliveryId = outcome.deliveryId then attemptedRow outcome state next d else d) ++ new ∧
    ∀ d ∈ new, d.deliveryState = .queued ∧ d.attemptCount = 0

lemma Moved.refl (db : Db) : Moved db db :=
  ⟨rfl, id, [], by simp, fun _ _ => ⟨rfl, rfl, Or.inl rfl⟩, by simp⟩

lemma moved_queue (now : Timestamp) (ids : List ℕ) (db : Db) :
    Moved db (queueWebhookDeliveriesInTx now ids db).2 := by
  obtain ⟨new, hrows, hnew⟩ := foldl_queueOne_rows now ([], db) (idSet ids)
  obtain ⟨totals, deliveries, hframe⟩ := foldl_queueOne_frame now (idSet ids) ([], db)
  refine ⟨?_, id, new, by rw [List.map_id]; exact hrows, fun _ _ => ⟨rfl, rfl, Or.inl rfl⟩, hnew⟩
  rw [queueWebhookDeliveriesInTx, hframe]

lemma moved_setDeliveries {p : WebhookDelivery → Bool} {f : WebhookDelivery → WebhookDelivery}
    (hf : ∀ d, (f d).deliveryId = d.deliveryId) (hcount : ∀ d, (f d).attemptCount = d.attemptCount)
    (hstate : ∀ d ∈ db.webhookDeliveries.rows, p d = true →
      d.deliveryState.outstanding = true ∧ (f d).deliveryState.outstanding = true) :
    Moved db (db.setDeliveries p f hf) := by
  refine ⟨rfl, fun d => if p d then f d else d, [], by simp [Db.setDeliveries], fun d hd => ?_,
    by simp⟩
  dsimp only
  split_ifs with h
  · exact ⟨hf d, hcount d, Or.inr (hstate d hd h)⟩
  · exact ⟨rfl, rfl, Or.inl rfl⟩

lemma recorded_recordAttempt (outcome : Attempt) (state : DeliveryState)
    (next : Option Timestamp) (db : Db) :
    AttemptRecorded outcome state next db (db.recordAttempt outcome state next) := by
  refine ⟨⟨_, rfl, rfl⟩, [], ?_, by simp⟩
  simp [Db.recordAttempt, Db.setDeliveries]

/-- An attempt, and the queue after it. -/
lemma AttemptRecorded.queue {db' : Db} {outcome : Attempt} {state : DeliveryState}
    {next : Option Timestamp} (h : AttemptRecorded outcome state next db db') (now : Timestamp)
    (ids : List ℕ) :
    AttemptRecorded outcome state next db (queueWebhookDeliveriesInTx now ids db').2 := by
  obtain ⟨⟨a, ha, hattempts⟩, new, hrows, hnew⟩ := h
  obtain ⟨new', hrows', hnew'⟩ := foldl_queueOne_rows now ([], db') (idSet ids)
  refine ⟨⟨a, ha, (moved_queue now ids db').attempts.trans hattempts⟩, new ++ new', ?_,
    fun d hd => ?_⟩
  · rw [← List.append_assoc, ← hrows]
    exact hrows'
  · rcases List.mem_append.mp hd with hd | hd
    · exact hnew d hd
    · exact hnew' d hd

lemma recordSuccess_recorded (outcome : Attempt) (now : Timestamp)
    (h : (db.webhookDeliveries.find? outcome.deliveryId).isSome = true) :
    ∃ db', recordWebhookDeliverySuccess outcome now db = .ok db' ∧
      AttemptRecorded outcome .succeeded none db db' := by
  obtain ⟨d, hd⟩ := Option.isSome_iff_exists.mp h
  have hrecord := recorded_recordAttempt outcome .succeeded none db
  simp only [recordWebhookDeliverySuccess, hd]
  split_ifs
  · exact ⟨_, rfl, hrecord⟩
  · have hack : AttemptRecorded outcome .succeeded none db (db.acknowledge d outcome) :=
      ⟨hrecord.attempts, hrecord.rows⟩
    exact ⟨_, rfl, hack.queue now [d.addressId]⟩

/-! ### The outcome of a call -/

/-- A failure after which another attempt may be made. -/
def HttpOutcome.retryable : HttpOutcome → Bool
  | .response status _ => status = 429 || 500 ≤ status && status ≤ 599
  | .transportError _ => true

def HttpOutcome.successful : HttpOutcome → Bool
  | .response status _ => 200 ≤ status && status ≤ 299
  | .transportError _ => false

/-- The state a delivery is in after an attempt that follows `count` others. -/
def finalState (config : DeliveryConfig) (count : ℕ) (outcome : HttpOutcome) : DeliveryState :=
  if outcome.successful then .succeeded
  else if outcome.retryable ∧ count + 1 < config.webhookMaxAttempts then .retryWait
  else .permanentFailure

/-- The time of the next attempt, if there is one, is before the end of the year 9999. -/
def RetryFits (config : DeliveryConfig) (count : ℕ) (r : Reply) : Prop :=
  finalState config count r.outcome = .retryWait →
    r.retryClock.toSeconds + exactDelay config count < Instant.endOfTime

lemma recordReply_eq (config : DeliveryConfig) (d : WebhookDelivery) (r : Reply) (db : Db) :
    recordReply config d r db =
      if r.outcome.successful then
        recordWebhookDeliverySuccess (r.attempt d.deliveryId) r.queueClock.rfc3339 db
      else if r.outcome.retryable then retryOrFail config d r db
      else recordWebhookDeliveryPermanentFailure (r.attempt d.deliveryId) db := by
  unfold recordReply
  rcases r.outcome with ⟨status, body⟩ | error
  · have hsuccess : isSuccess status = (HttpOutcome.response status body).successful := by
      rw [Bool.eq_iff_iff]
      simp only [isSuccess, HttpOutcome.successful, Bool.and_eq_true, decide_eq_true_iff]
      omega
    have hretry : (isServerError status || status = tooManyRequests) =
        (HttpOutcome.response status body).retryable := by
      have h429 : decide (status = tooManyRequests) = true ↔ status = 429 := decide_eq_true_iff
      rw [Bool.eq_iff_iff]
      simp only [isServerError, HttpOutcome.retryable, Bool.or_eq_true, h429, Bool.and_eq_true,
        decide_eq_true_iff]
      omega
    simp only [hsuccess, hretry]
  · simp [HttpOutcome.successful, HttpOutcome.retryable]

lemma retryOrFail_spec (r : Reply)
    (hrow : (db.webhookDeliveries.find? d.deliveryId).isSome = true)
    (hcount : d.attemptCount < config.webhookMaxAttempts) :
    (config.webhookMaxAttempts ≤ d.attemptCount + 1 ∧ retryOrFail config d r db =
      .ok (db.recordAttempt (r.attempt d.deliveryId) .permanentFailure none)) ∨
    d.attemptCount + 1 < config.webhookMaxAttempts ∧
      ((∃ next : Instant, retryOrFail config d r db =
          .ok (db.recordAttempt (r.attempt d.deliveryId) .retryWait (some next.rfc3339)) ∧
        next.toNanos = r.retryClock.toNanos + exactDelay config d.attemptCount * 1000000000 ∧
        r.retryClock.toSeconds + exactDelay config d.attemptCount < Instant.endOfTime) ∨
      (∃ e, retryOrFail config d r db = .error e) ∧
        ¬r.retryClock.toSeconds + exactDelay config d.attemptCount < Instant.endOfTime) := by
  have hmax := config.attempts_mem.2
  have hu32 : d.attemptCount < maxU32 := by
    unfold maxU32
    omega
  unfold retryOrFail
  split_ifs with hfail
  · refine Or.inl ⟨(shouldPermanentlyFail_iff hcount).mp hfail, ?_⟩
    rw [recordWebhookDeliveryPermanentFailure, if_pos (by exact hrow)]
  · refine Or.inr ⟨Nat.lt_of_not_le ((shouldPermanentlyFail_iff hcount).not.mp hfail), ?_⟩
    rcases retryAt_spec config hu32 r.retryClock with ⟨next, hnext, htime, hfits⟩ |
      ⟨⟨e, he⟩, hfits⟩
    · refine Or.inl ⟨next, ?_, htime, hfits⟩
      simp only [hnext]
      rw [recordWebhookDeliveryRetry, if_pos (by exact hrow)]
    · exact Or.inr ⟨⟨e, by simp only [he]⟩, hfits⟩

/-- **The second half of a call** records the attempt, unless the next one does not fit. -/
lemma recordReply_spec (hrow : (db.webhookDeliveries.find? d.deliveryId).isSome = true)
    (hcount : d.attemptCount < config.webhookMaxAttempts) :
    (RetryFits config d.attemptCount r ∧ ∃ db' next, recordReply config d r db = .ok db' ∧
      AttemptRecorded (r.attempt d.deliveryId) (finalState config d.attemptCount r.outcome) next db
        db' ∧
      (finalState config d.attemptCount r.outcome = .retryWait → ∃ at' : Instant,
        next = some at'.rfc3339 ∧ at'.toNanos =
          r.retryClock.toNanos + exactDelay config d.attemptCount * 1000000000)) ∨
    ¬RetryFits config d.attemptCount r ∧ ∃ e, recordReply config d r db = .error e := by
  rw [recordReply_eq]
  split_ifs with hsuccess hretry
  · have hstate : finalState config d.attemptCount r.outcome = .succeeded := if_pos hsuccess
    obtain ⟨db', hok, hrecorded⟩ := recordSuccess_recorded (r.attempt d.deliveryId)
      r.queueClock.rfc3339 (by exact hrow)
    exact Or.inl ⟨by simp [RetryFits, hstate], db', none, hok, hstate ▸ hrecorded, by simp [hstate]⟩
  · rcases retryOrFail_spec r hrow hcount with ⟨hmax, hok⟩ |
      ⟨hleft, ⟨next, hok, htime, hfits⟩ | ⟨herror, hfits⟩⟩
    · have hstate : finalState config d.attemptCount r.outcome = .permanentFailure := by
        rw [finalState, if_neg hsuccess, if_neg fun h => absurd h.2 (by omega)]
      rw [hstate]
      exact Or.inl ⟨by simp [RetryFits, hstate], _, none, hok, recorded_recordAttempt _ _ _ _,
        by simp⟩
    · have hstate : finalState config d.attemptCount r.outcome = .retryWait := by
        rw [finalState, if_neg hsuccess, if_pos ⟨hretry, hleft⟩]
      rw [hstate]
      exact Or.inl ⟨fun _ => hfits, _, some next.rfc3339, hok, recorded_recordAttempt _ _ _ _,
        fun _ => ⟨next, rfl, htime⟩⟩
    · have hstate : finalState config d.attemptCount r.outcome = .retryWait := by
        rw [finalState, if_neg hsuccess, if_pos ⟨hretry, hleft⟩]
      exact Or.inr ⟨fun h => hfits (h hstate), herror⟩
  · have hstate : finalState config d.attemptCount r.outcome = .permanentFailure := by
      rw [finalState, if_neg hsuccess, if_neg fun h => hretry h.1]
    rw [hstate]
    refine Or.inl ⟨by simp [RetryFits, hstate], _, none, ?_, recorded_recordAttempt _ _ _ _,
      by simp⟩
    rw [recordWebhookDeliveryPermanentFailure, if_pos (by exact hrow)]

/-! ### The invariant -/

/-- Deliveries and attempts between two acts. -/
structure DeliveriesSound (config : DeliveryConfig) (db : Db) : Prop where
  counted : ∀ d ∈ db.webhookDeliveries.rows, d.attemptCount = db.attemptsOf d.deliveryId
  known : ∀ a ∈ db.webhookDeliveryAttempts, ∃ d ∈ db.webhookDeliveries.rows,
    d.deliveryId = a.deliveryId
  bounded : ∀ d ∈ db.webhookDeliveries.rows, d.attemptCount ≤ config.webhookMaxAttempts
  left : ∀ d ∈ db.webhookDeliveries.rows, d.deliveryState.outstanding = true →
    d.attemptCount < config.webhookMaxAttempts

/-- The row of the delivery a call is at. -/
def Claimed (db : Db) (d : WebhookDelivery) : Prop :=
  ∃ row ∈ db.webhookDeliveries.rows, row.deliveryId = d.deliveryId ∧
    row.deliveryState = .sending ∧ row.attemptCount = d.attemptCount

/-- A delivery in a final state stays there. -/
def FinalKept (db db' : Db) : Prop :=
  ∀ d ∈ db.webhookDeliveries.rows, d.deliveryState.outstanding = false →
    ∃ d' ∈ db'.webhookDeliveries.rows, d'.deliveryId = d.deliveryId ∧
      d'.deliveryState = d.deliveryState

lemma FinalKept.refl (db : Db) : FinalKept db db := fun d hd _ => ⟨d, hd, rfl, rfl⟩

lemma FinalKept.trans {db₁ db₂ db₃ : Db} (h : FinalKept db₁ db₂) (h' : FinalKept db₂ db₃) :
    FinalKept db₁ db₃ := by
  intro d hd hstate
  obtain ⟨d₂, hd₂, hid, hsame⟩ := h d hd hstate
  obtain ⟨d₃, hd₃, hid', hsame'⟩ := h' d₂ hd₂ (by rw [hsame]; exact hstate)
  exact ⟨d₃, hd₃, hid'.trans hid, hsame'.trans hsame⟩

lemma Moved.finalKept {db' : Db} (h : Moved db db') : FinalKept db db' := by
  intro d hd hstate
  obtain ⟨f, new, hrows, hf, -⟩ := h.rows
  obtain ⟨hid, -, hst⟩ := hf d hd
  refine ⟨f d, by rw [hrows]; exact List.mem_append_left _ (List.mem_map_of_mem hd), hid, ?_⟩
  exact hst.resolve_right fun h => by
    rw [hstate] at h
    cases h.1

lemma Moved.sound {db' : Db} (h : Moved db db') (hs : DeliveriesSound config db) :
    DeliveriesSound config db' := by
  obtain ⟨f, new, hrows, hf, hnew⟩ := h.rows
  have hcount : ∀ i, db'.attemptsOf i = db.attemptsOf i := fun i => by
    rw [Db.attemptsOf, h.attempts, Db.attemptsOf]
  have hmax := config.attempts_mem.1
  -- An id that is added is no old row's, so no attempt names it.
  have hfresh : ∀ d ∈ new, db.attemptsOf d.deliveryId = 0 := by
    intro d hd
    rw [Db.attemptsOf, List.countP_eq_zero]
    intro a ha heq
    obtain ⟨b, hb, hba⟩ := hs.known a ha
    have hnodup := db'.webhookDeliveries.nodup
    rw [hrows, List.map_append, List.nodup_append] at hnodup
    refine hnodup.2.2 (f b).deliveryId (List.mem_map_of_mem (List.mem_map_of_mem hb))
      d.deliveryId (List.mem_map_of_mem hd) ?_
    rw [(hf b hb).1, hba]
    simpa using heq
  have hmem : ∀ d ∈ db'.webhookDeliveries.rows,
      (∃ b ∈ db.webhookDeliveries.rows, d = f b) ∨ d ∈ new := by
    intro d hd
    rw [hrows] at hd
    rcases List.mem_append.mp hd with hd | hd
    · obtain ⟨b, hb, rfl⟩ := List.mem_map.mp hd
      exact Or.inl ⟨b, hb, rfl⟩
    · exact Or.inr hd
  refine ⟨fun d hd => ?_, fun a ha => ?_, fun d hd => ?_, fun d hd hout => ?_⟩
  · rw [hcount]
    rcases hmem d hd with ⟨b, hb, rfl⟩ | hd
    · rw [(hf b hb).2.1, (hf b hb).1]
      exact hs.counted b hb
    · rw [(hnew d hd).2, hfresh d hd]
  · rw [h.attempts] at ha
    obtain ⟨b, hb, hba⟩ := hs.known a ha
    exact ⟨f b, by rw [hrows]; exact List.mem_append_left _ (List.mem_map_of_mem hb),
      (hf b hb).1.trans hba⟩
  · rcases hmem d hd with ⟨b, hb, rfl⟩ | hd
    · rw [(hf b hb).2.1]
      exact hs.bounded b hb
    · rw [(hnew d hd).2]
      omega
  · rcases hmem d hd with ⟨b, hb, rfl⟩ | hd
    · rw [(hf b hb).2.1]
      refine hs.left b hb ?_
      rcases (hf b hb).2.2 with h | h
      · rw [← h]
        exact hout
      · exact h.1
    · rw [(hnew d hd).2]
      omega

/-- **One attempt** is counted once, and ends in the state it is recorded with. -/
lemma AttemptRecorded.sound {db' : Db} {outcome : Attempt} {state : DeliveryState}
    {next : Option Timestamp} (h : AttemptRecorded outcome state next db db')
    (hs : DeliveriesSound config db) {row : WebhookDelivery}
    (hrow : row ∈ db.webhookDeliveries.rows) (hid : row.deliveryId = outcome.deliveryId)
    (hsending : row.deliveryState = .sending)
    (hstate : state.outstanding = true → row.attemptCount + 1 < config.webhookMaxAttempts) :
    DeliveriesSound config db' ∧ FinalKept db db' ∧
      attemptedRow outcome state next row ∈ db'.webhookDeliveries.rows := by
  obtain ⟨⟨a, ha, hattempts⟩, new, hrows, hnew⟩ := h
  have hmax := config.attempts_mem.1
  have hleft := hs.left row hrow (by rw [hsending]; rfl)
  have hsame : ∀ b ∈ db.webhookDeliveries.rows, b.deliveryId = outcome.deliveryId → b = row :=
    fun b hb heq => db.webhookDeliveries.eq_of_key hb hrow (heq.trans hid.symm)
  have hcount : ∀ i, db'.attemptsOf i =
      db.attemptsOf i + if outcome.deliveryId = i then 1 else 0 := fun i => by
    rw [Db.attemptsOf, hattempts, List.countP_append, List.countP_singleton, Db.attemptsOf, ha]
    simp
  have hold : ∀ b ∈ db.webhookDeliveries.rows,
      (if b.deliveryId = outcome.deliveryId then attemptedRow outcome state next b else b) ∈
        db'.webhookDeliveries.rows := fun b hb => by
    rw [hrows]
    exact List.mem_append_left _ (List.mem_map_of_mem hb)
  have hcases : ∀ d ∈ db'.webhookDeliveries.rows, d = attemptedRow outcome state next row ∨
      (d ∈ db.webhookDeliveries.rows ∧ d.deliveryId ≠ outcome.deliveryId) ∨ d ∈ new := by
    intro d hd
    rw [hrows] at hd
    rcases List.mem_append.mp hd with hd | hd
    · obtain ⟨b, hb, rfl⟩ := List.mem_map.mp hd
      split_ifs with heq
      · exact Or.inl (by rw [hsame b hb heq])
      · exact Or.inr (Or.inl ⟨hb, heq⟩)
    · exact Or.inr (Or.inr hd)
  have hfresh : ∀ d ∈ new, ∀ b ∈ db.webhookDeliveries.rows, b.deliveryId ≠ d.deliveryId := by
    intro d hd b hb heq
    have hnodup := db'.webhookDeliveries.nodup
    rw [hrows, List.map_append, List.nodup_append] at hnodup
    refine hnodup.2.2 b.deliveryId ?_ d.deliveryId (List.mem_map_of_mem hd) heq
    rw [List.map_map]
    refine List.mem_map.mpr ⟨b, hb, ?_⟩
    simp only [Function.comp_apply]
    split_ifs <;> rfl
  have hzero : ∀ d ∈ new, db'.attemptsOf d.deliveryId = 0 := by
    intro d hd
    rw [hcount, if_neg fun h => hfresh d hd row hrow (hid.trans h), Nat.add_zero, Db.attemptsOf,
      List.countP_eq_zero]
    intro a ha heq
    obtain ⟨b, hb, hba⟩ := hs.known a ha
    exact hfresh d hd b hb (hba.trans (by simpa using heq))
  have hattempted : attemptedRow outcome state next row ∈ db'.webhookDeliveries.rows := by
    have h := hold row hrow
    rwa [if_pos hid] at h
  refine ⟨⟨fun d hd => ?_, fun b hb => ?_, fun d hd => ?_, fun d hd hout => ?_⟩, ?_, hattempted⟩
  · rcases hcases d hd with rfl | ⟨hd, hne⟩ | hd
    · change row.attemptCount + 1 = db'.attemptsOf row.deliveryId
      rw [hcount, if_pos hid.symm, hs.counted row hrow]
    · rw [hcount, if_neg (Ne.symm hne), hs.counted d hd, Nat.add_zero]
    · rw [(hnew d hd).2, hzero d hd]
  · rw [hattempts] at hb
    rcases List.mem_append.mp hb with hb | hb
    · obtain ⟨c, hc, hcb⟩ := hs.known b hb
      refine ⟨_, hold c hc, ?_⟩
      split_ifs
      · exact hcb
      · exact hcb
    · rw [List.mem_singleton.mp hb, ha]
      exact ⟨_, hattempted, hid⟩
  · rcases hcases d hd with rfl | ⟨hd, -⟩ | hd
    · exact hleft
    · exact hs.bounded d hd
    · rw [(hnew d hd).2]
      omega
  · rcases hcases d hd with rfl | ⟨hd, -⟩ | hd
    · exact hstate hout
    · exact hs.left d hd hout
    · rw [(hnew d hd).2]
      omega
  · intro d hd hfinal
    have hne : d.deliveryId ≠ outcome.deliveryId := fun heq => by
      rw [hsame d hd heq, hsending] at hfinal
      cases hfinal
    have h := hold d hd
    rw [if_neg hne] at h
    exact ⟨d, h, rfl, rfl⟩

/-! ### The worker -/

structure Worker.Sound (config : DeliveryConfig) (w : Worker) : Prop where
  deliveries : DeliveriesSound config w.db
  claimed : ∀ d, w.inFlight = some d → Claimed w.db d

lemma ready_outstanding_state {now : Timestamp} (h : ready now d = true) :
    d.deliveryState.outstanding = true := by
  simp only [ready, Bool.or_eq_true, Bool.and_eq_true, decide_eq_true_iff] at h
  rcases h with h | ⟨h, -⟩ <;> rw [h] <;> rfl

/-- **A claim** moves one ready row to `sending`, or finds none. -/
lemma claim_spec (now : Timestamp) (db : Db) :
    Moved db (claimReadyWebhookDelivery now db).2 ∧
      ∀ d, (claimReadyWebhookDelivery now db).1 = some d →
        Claimed (claimReadyWebhookDelivery now db).2 d := by
  by_cases hready : ∃ d ∈ db.webhookDeliveries.rows, ready now d = true
  · obtain ⟨c, hc, hcready, hold, -⟩ := oldestReady_least hready
    have hclaim : claimReadyWebhookDelivery now db = (some c, db.setDeliveries
        (fun d => d.deliveryId = c.deliveryId) claimedRow deliveryId_claimedRow) := by
      rw [claimReadyWebhookDelivery, hold]
    rw [hclaim]
    refine ⟨moved_setDeliveries deliveryId_claimedRow (fun _ => rfl) fun d hd heq => ?_, ?_⟩
    · obtain rfl := db.webhookDeliveries.eq_of_key hd hc (of_decide_eq_true heq)
      exact ⟨ready_outstanding_state hcready, rfl⟩
    · rintro _ ⟨rfl⟩
      refine ⟨claimedRow c, ?_, rfl, rfl, rfl⟩
      simp only [Db.setDeliveries, Table.rows_update]
      exact List.mem_map.mpr ⟨c, hc, by simp⟩
  · have hnone : claimReadyWebhookDelivery now db = (none, db) := by
      have hempty : db.webhookDeliveries.rows.filter (ready now) = [] := by
        rw [List.filter_eq_nil_iff]
        exact fun d hd h => hready ⟨d, hd, h⟩
      rw [claimReadyWebhookDelivery, oldestReady, hempty]
      rfl
    rw [hnone]
    exact ⟨.refl db, fun d h => by cases h⟩

lemma Claimed.append {db' : Db} {new : List WebhookDelivery} (h : Claimed db d)
    (hrows : db'.webhookDeliveries.rows = db.webhookDeliveries.rows ++ new) : Claimed db' d := by
  obtain ⟨row, hrow, hid, hstate, hcount⟩ := h
  exact ⟨row, by rw [hrows]; exact List.mem_append_left _ hrow, hid, hstate, hcount⟩

/-- **The second half of a call**, seen from the delivery it is about. -/
lemma finish_spec (hs : DeliveriesSound config db) (hd : Claimed db d) (r : Reply) :
    (RetryFits config d.attemptCount r ∧ ∃ db' row, recordReply config d r db = .ok db' ∧
      DeliveriesSound config db' ∧ FinalKept db db' ∧
      row ∈ db'.webhookDeliveries.rows ∧ row.deliveryId = d.deliveryId ∧
      row.deliveryState = finalState config d.attemptCount r.outcome ∧
      row.attemptCount = d.attemptCount + 1 ∧
      (row.deliveryState = .retryWait → ∃ next : Instant,
        row.nextAttemptAt = some next.rfc3339 ∧ next.toNanos =
          r.retryClock.toNanos + exactDelay config d.attemptCount * 1000000000)) ∨
    ¬RetryFits config d.attemptCount r ∧ ∃ e, recordReply config d r db = .error e := by
  obtain ⟨row, hrow, hid, hsending, hcount⟩ := hd
  have hleft := hs.left row hrow (by rw [hsending]; rfl)
  have hsome : (db.webhookDeliveries.find? d.deliveryId).isSome = true := by
    rw [← hid, Table.find?_of_mem hrow]
    rfl
  rcases recordReply_spec (r := r) hsome (hcount ▸ hleft) with
    ⟨hfits, db', next, hok, hrecorded, hnext⟩ | h
  · obtain ⟨hs', hkept, hmem⟩ := hrecorded.sound hs hrow hid hsending fun hout => by
      rw [hcount]
      unfold finalState at hout
      split_ifs at hout with h1 h2
      · cases hout
      · exact h2.2
      · cases hout
    exact Or.inl ⟨hfits, db', _, hok, hs', hkept, hmem, hid, rfl, by rw [← hcount]; rfl, hnext⟩
  · exact Or.inr h

/-- **One act** keeps the counts and the final states. -/
lemma Worker.act_spec (h : w.Sound config) (act : WorkerAct) :
    (w.act config act).Sound config ∧ FinalKept w.db (w.act config act).db := by
  rcases act with now | r | now | ⟨now, ids⟩ | write
  · rcases hflight : w.inFlight with _ | d
    · obtain ⟨hmoved, hclaimed⟩ := claim_spec now.rfc3339 w.db
      simp only [Worker.act, hflight]
      exact ⟨⟨hmoved.sound h.deliveries, hclaimed⟩, hmoved.finalKept⟩
    · simp only [Worker.act, hflight]
      exact ⟨h, .refl w.db⟩
  · rcases hflight : w.inFlight with _ | d
    · simp only [Worker.act, hflight]
      exact ⟨h, .refl w.db⟩
    · simp only [Worker.act, hflight]
      rcases finish_spec h.deliveries (h.claimed d hflight) r with
        ⟨-, db', row, hok, hs', hkept, -⟩ | ⟨-, e, herror⟩
      · simp only [hok]
        exact ⟨⟨hs', fun _ h => by cases h⟩, hkept⟩
      · simp only [herror]
        exact ⟨⟨h.deliveries, fun _ h => by cases h⟩, .refl w.db⟩
  · have hmoved : Moved w.db (recoverInterruptedWebhookDeliveries now.rfc3339 w.db).2 :=
      moved_setDeliveries (deliveryId_recoveredRow _) (fun _ => rfl) fun d _ hp => by
        rw [of_decide_eq_true hp]
        exact ⟨rfl, rfl⟩
    exact ⟨⟨hmoved.sound h.deliveries, fun _ h => by cases h⟩, hmoved.finalKept⟩
  · have hmoved := moved_queue now.rfc3339 ids w.db
    obtain ⟨new, hrows, -⟩ := foldl_queueOne_rows now.rfc3339 ([], w.db) (idSet ids)
    exact ⟨⟨hmoved.sound h.deliveries, fun d hd => (h.claimed d hd).append hrows⟩,
      hmoved.finalKept⟩
  · have hmoved : Moved w.db (w.db.keepDeliveries (write w.db)) :=
      ⟨rfl, id, [], by simp [Db.keepDeliveries], fun _ _ => ⟨rfl, rfl, Or.inl rfl⟩, by simp⟩
    exact ⟨⟨hmoved.sound h.deliveries, h.claimed⟩, hmoved.finalKept⟩

/-- **A run** keeps them. -/
lemma Worker.run_spec (h : w.Sound config) (acts : List WorkerAct) :
    (w.run config acts).Sound config ∧ FinalKept w.db (w.run config acts).db := by
  induction acts generalizing w with
  | nil => exact ⟨h, .refl w.db⟩
  | cons act acts ih =>
    obtain ⟨hs, hkept⟩ := w.act_spec h act
    obtain ⟨hs', hkept'⟩ := ih hs
    exact ⟨hs', hkept.trans hkept'⟩

lemma fresh_sound (config : DeliveryConfig) : Worker.Sound config ⟨Db.fresh, none⟩ :=
  ⟨⟨by simp [Db.fresh], by simp [Db.fresh], by simp [Db.fresh], by simp [Db.fresh]⟩,
    fun _ h => by cases h⟩

/-- A call has moved its delivery on: to the state its post decides, with one attempt more, and
with the exact delay before the next one. -/
def MovedOn (config : DeliveryConfig) (d : WebhookDelivery) (r : Reply) (db' : Db) : Prop :=
  ∃ row ∈ db'.webhookDeliveries.rows, row.deliveryId = d.deliveryId ∧
    row.deliveryState = finalState config d.attemptCount r.outcome ∧
    row.attemptCount = d.attemptCount + 1 ∧
    (row.deliveryState = .retryWait → ∃ next : Instant, row.nextAttemptAt = some next.rfc3339 ∧
      next.toNanos = r.retryClock.toNanos + exactDelay config d.attemptCount * 1000000000)

/-- **The life of a delivery.** In every run: attempts are counted, and never more than the
limit; a final state is never left; and a call that has claimed a delivery finds it in `sending`
and moves it on exactly where the next attempt, if there is one, is before the year 10000. -/
theorem delivery_lifecycle_iff (config : DeliveryConfig) (acts : List WorkerAct) :
    let w := Worker.run config ⟨Db.fresh, none⟩ acts
    (∀ d ∈ w.db.webhookDeliveries.rows, d.attemptCount = w.db.attemptsOf d.deliveryId ∧
      d.attemptCount ≤ config.webhookMaxAttempts) ∧
    (∀ more, FinalKept w.db (w.run config more).db) ∧
    ∀ d r, w.inFlight = some d → Claimed w.db d ∧
      (MovedOn config d r (w.act config (.finish r)).db ↔ RetryFits config d.attemptCount r) := by
  intro w
  have hs : w.Sound config := (Worker.run_spec (fresh_sound config) acts).1
  refine ⟨fun d hd => ⟨hs.deliveries.counted d hd, hs.deliveries.bounded d hd⟩,
    fun more => (w.run_spec hs more).2, fun d r hflight => ⟨hs.claimed d hflight, ?_⟩⟩
  simp only [Worker.act, hflight]
  rcases finish_spec hs.deliveries (hs.claimed d hflight) r with
    ⟨hfits, db', row, hok, -, -, hrow⟩ | ⟨hfits, e, herror⟩
  · simp only [hok, hfits, iff_true]
    exact ⟨row, hrow⟩
  · simp only [herror, hfits, iff_false]
    rintro ⟨row, hrow, hid, -, hcount, -⟩
    -- The row is still the one claimed, with the count it had.
    obtain ⟨row', hrow', hid', -, hcount'⟩ := hs.claimed d hflight
    obtain rfl := w.db.webhookDeliveries.eq_of_key hrow hrow' (hid.trans hid'.symm)
    omega

def testDeliveryConfig : DeliveryConfig :=
  ⟨5, 3600, 3, by decide, by decide, by decide⟩

/-- An address becomes dirty, its delivery is queued and claimed. -/
def claimedRun : List WorkerAct :=
  let now := testInstant 0 (by decide)
  [.other fun _ => (startDb testConfig "t0" [testAddress]).setTotals 1
      (fun t => { t with currentTotalZat := 5, dirtyState := .dirty, stateVersion := 1 })
      fun _ => rfl,
    .queue now [1], .claim now]

def unavailable : Reply :=
  let now := testInstant 0 (by decide)
  ⟨.response 503 "unavailable", now, now, now, 10⟩

/-- The receiver is unavailable: another attempt is due five seconds later. -/
theorem delivery_waits_after_a_failed_attempt :
    let w := Worker.run testDeliveryConfig ⟨Db.fresh, none⟩ claimedRun
    ∃ row ∈ (w.act testDeliveryConfig (.finish unavailable)).db.webhookDeliveries.rows,
      row.deliveryState = .retryWait ∧ row.attemptCount = 1 ∧ ∃ next : Instant,
        row.nextAttemptAt = some next.rfc3339 ∧
        next.toNanos = (testInstant 0 (by decide)).toNanos + 5 * 1000000000 := by
  intro w
  have hclaimed : w.inFlight.any (fun d => d.attemptCount = 0) = true := by decide +kernel
  obtain ⟨d, hd, hcount⟩ := (Option.any_eq_true _ _).mp hclaimed
  have hzero : d.attemptCount = 0 := of_decide_eq_true hcount
  have hw : Worker.run testDeliveryConfig ⟨Db.fresh, none⟩ claimedRun = w := rfl
  have hiff := (delivery_lifecycle_iff testDeliveryConfig claimedRun).2.2 d unavailable hd
  rw [hzero, hw] at hiff
  obtain ⟨row, hrow, -, hstate, hone, hnext⟩ := hiff.2.mpr fun _ => by decide +kernel
  rw [hzero] at hstate hone hnext
  have hretry : row.deliveryState = .retryWait := hstate.trans (by decide)
  have hdelay : exactDelay testDeliveryConfig 0 = 5 := by decide
  rw [hdelay] at hnext
  exact ⟨row, hrow, hretry, hone, hnext hretry⟩

/-- A delay of thirty thousand years is accepted, but the time of the next attempt cannot be
written: the call returns an error, and the delivery stays in `sending`. -/
theorem delivery_left_in_sending :
    let config : DeliveryConfig :=
      ⟨1000000000000, 1000000000000, 3, by decide, by decide, by decide⟩
    let w := Worker.run config ⟨Db.fresh, none⟩ claimedRun
    w.inFlight.isSome = true ∧
      ((w.act config (.finish unavailable)).inFlight.isNone ∧
        (w.act config (.finish unavailable)).db.webhookDeliveries.rows.map (fun d =>
          (d.deliveryState, d.attemptCount)) = [(.sending, 0)]) := by
  decide +kernel

end ZcashPayment

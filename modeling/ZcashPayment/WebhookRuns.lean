import ZcashPayment.Outbox

/-!
Webhook delivery as a system of its parties.

The sync worker changes totals and queues deliveries, the delivery worker claims a delivery,
posts it and records what came of it, a crash is followed by the recovery of what was being
sent, and the receiver may process a post that was attempted at any later time and any number
of times, or never. Everything interleaves; one action is one transaction, or one event at the
receiver.
-/

namespace ZcashPayment

/-! ### The system -/

/-- What a receiver holds of an address that applies an event only when its version is higher
than the last one it applied. -/
def received (log : List (EventId × Content)) (a : ℕ) : Option (ℕ × Content) :=
  log.foldl
    (fun held e =>
      if e.1.addressId = a ∧ held.all (fun h => h.1 < e.1.stateVersion) then
        some (e.1.stateVersion, e.2)
      else held)
    none

structure System where
  db : Db
  /-- The deliveries a worker has claimed to post. -/
  posted : List ℕ
  /-- The events the receiver has processed, in order. -/
  log : List (EventId × Content)

inductive Action where
  | ledger (now : Timestamp) (op : LedgerOp)
  | queue (now : Timestamp) (addressIds : List ℕ)
  | queueAllDirty (now : Timestamp)
  | recover (now : Timestamp)
  | claim (now : Timestamp)
  | process (deliveryId : ℕ)
  | success (now : Timestamp) (outcome : Attempt)
  | retry (outcome : Attempt) (nextAttemptAt : Timestamp)
  | permanentFailure (outcome : Attempt)

def Action.isPermanentFailure : Action → Bool
  | .permanentFailure _ => true
  | _ => false

namespace System

variable (cutoffOf : Timestamp → Except AppError Timestamp) (finality : ℕ)

/-- The delivery a worker is sending. -/
def sending (s : System) (deliveryId : ℕ) : Option WebhookDelivery :=
  (s.db.webhookDeliveries.find? deliveryId).filter fun d => d.deliveryState = .sending

/-- A transaction that fails is rolled back. -/
def commit (s : System) (result : Except AppError Db) : System :=
  match result with
  | .ok db => { s with db }
  | .error _ => s

/-- One action; `none` when it cannot happen in this state. -/
def step (s : System) : Action → Option System
  | .ledger now op => some (s.commit ((op.run cutoffOf finality now s.db).map Prod.snd))
  | .queue now ids => some { s with db := (queueWebhookDeliveriesForDirtyAddresses now ids s.db).2 }
  | .queueAllDirty now => some { s with db := (queueAllDirtyWebhookDeliveries now s.db).2 }
  | .recover now => some { s with db := (recoverInterruptedWebhookDeliveries now s.db).2 }
  | .claim now =>
    let claimed := claimReadyWebhookDelivery now s.db
    some { s with db := claimed.2, posted := (claimed.1.map (·.deliveryId)).toList ++ s.posted }
  | .process i =>
    if i ∈ s.posted then
      (s.db.webhookDeliveries.find? i).map fun d =>
        { s with log := s.log ++ [(d.eventId, d.content)] }
    else none
  -- A response of success comes from a receiver that has processed the post.
  | .success now outcome =>
    ((s.sending outcome.deliveryId).filter fun d => (d.eventId, d.content) ∈ s.log).map fun _ =>
      s.commit (recordWebhookDeliverySuccess outcome now s.db)
  | .retry outcome next =>
    (s.sending outcome.deliveryId).map fun _ =>
      s.commit (recordWebhookDeliveryRetry outcome next s.db)
  | .permanentFailure outcome =>
    (s.sending outcome.deliveryId).map fun _ =>
      s.commit (recordWebhookDeliveryPermanentFailure outcome s.db)

/-- The call of the queue an action makes: the database it is handed and the addresses. -/
def queueCall (s : System) : Action → Option (Db × List ℕ)
  | .queue _ ids => some (s.db, ids)
  | .queueAllDirty _ => some (s.db, dirtyAddresses s.db)
  | .success _ outcome =>
    (s.sending outcome.deliveryId).bind fun d =>
      if ackedIsNewer (s.db.recordAttempt outcome .succeeded none) d then none
      else some (s.db.acknowledge d outcome, [d.addressId])
  | _ => none

def run : List Action → System → Option System
  | [], s => some s
  | act :: acts, s => (s.step cutoffOf finality act).bind (run acts)

end System

/-- Nothing was queued, posted or processed yet. -/
def startSystem (config : Config) (createdAt : Timestamp) (requests : List NewAddress) :
    System where
  db := startDb config createdAt requests
  posted := []
  log := []

/-! ### What an action does to one address -/

/-- What the queue is called on: totals and deliveries of an address. -/
abbrev Considered := AddressTotals → List WebhookDelivery → Prop

/-- The change of the totals and the deliveries of one address; `mayFail` allows a delivery to
fail for good, and the queue runs on what `C` says. -/
inductive AddressStep (mayFail : Bool) (C : Considered) : AddressTotals →
    List WebhookDelivery → AddressTotals → List WebhookDelivery → Prop
  | retotaled {t t' ds} (hs : SameAck t t')
      (hv : t'.content = t.content ∧ t'.stateVersion = t.stateVersion ∨
        t'.stateVersion = t.stateVersion + 1)
      (hd : t'.content = t.content ∧ t'.dirtyState = t.dirtyState ∨ t'.dirtyState = .dirty) :
      AddressStep mayFail C t ds t' ds
  | queue {now t t' ds ds'} (hc : C t ds) (ho : QueueOutcome now t ds t' ds') :
      AddressStep mayFail C t ds t' ds'
  | moved {t ds f} (hf : SameEvents f)
      (hst : ∀ d ∈ ds, (f d).deliveryState = d.deliveryState ∨
        d.deliveryState.outstanding = true ∧ ((f d).deliveryState.outstanding = true ∨
          mayFail = true ∧ (f d).deliveryState = .permanentFailure)) :
      AddressStep mayFail C t ds t (ds.map f)
  | lateSuccess {t ds f} (d : WebhookDelivery) (hf : SameEvents f)
      (hlt : ∃ i, ackedDeliveryId t ds = some i ∧ d.deliveryId < i) (hd : d ∈ ds)
      (hsucc : (f d).deliveryState = .succeeded)
      (hother : ∀ b ∈ ds, b.deliveryId ≠ d.deliveryId →
        (f b).deliveryState = b.deliveryState) : AddressStep mayFail C t ds t (ds.map f)
  | acknowledged {t ds f now t' ds'} (d : WebhookDelivery) (attemptedAt : Timestamp)
      (hf : SameEvents f) (hle : ∀ i, ackedDeliveryId t ds = some i → i ≤ d.deliveryId)
      (hd : d ∈ ds) (hsucc : (f d).deliveryState = .succeeded)
      (hother : ∀ b ∈ ds, b.deliveryId ≠ d.deliveryId →
        (f b).deliveryState = b.deliveryState)
      (hc : C (acknowledgedBy d attemptedAt t) (ds.map f))
      (ho : QueueOutcome now (acknowledgedBy d attemptedAt t) (ds.map f) t' ds') :
      AddressStep mayFail C t ds t' ds'

variable {cutoffOf : Timestamp → Except AppError Timestamp} {finality : ℕ} {db : Db}
  {s s' : System} {act : Action} {t t' : AddressTotals} {ds ds' : List WebhookDelivery} {a : ℕ}
  {mayFail : Bool} {C : Considered}

lemma outstanding_ne_succeeded {st : DeliveryState} (h : st.outstanding = true) :
    st ≠ .succeeded := by
  rintro rfl
  cases h

/-- **Step lemma**: every change of an address keeps its outbox right. -/
lemma AddressStep.right (h : OutboxRight t ds) (hstep : AddressStep mayFail C t ds t' ds') :
    OutboxRight t' ds' := by
  cases hstep with
  | retotaled hs hv => exact h.bump hs hv
  | queue _ ho => exact h.queue ho
  | moved hf hst =>
    refine h.map hf (fun d hd hs => ?_) fun d hd hs => ?_
    · rcases hst d hd with heq | ⟨hout, -⟩
      · rw [heq, hs]
      · exact absurd hs (outstanding_ne_succeeded hout)
    · rcases hst d hd with heq | ⟨-, hout | ⟨-, hfail⟩⟩
      · exact Or.inl (heq ▸ hs)
      · exact absurd hs (outstanding_ne_succeeded hout)
      · rw [hfail] at hs
        cases hs
  | lateSuccess d hf hlt hd hsucc hother =>
    obtain ⟨i, hi, hlt⟩ := hlt
    have hcase : ∀ b ∈ ds, b = d ∨ b.deliveryId ≠ d.deliveryId := by
      intro b hb
      by_cases heq : b.deliveryId = d.deliveryId
      · exact Or.inl (h.inj b hb d hd heq)
      · exact Or.inr heq
    refine h.map hf (fun b hb hs => ?_) fun b hb hs => ?_
    · rcases hcase b hb with rfl | hne
      · exact hsucc
      · rw [hother b hb hne, hs]
    · rcases hcase b hb with rfl | hne
      · exact Or.inr ⟨i, hi, hlt.le⟩
      · exact Or.inl (hother b hb hne ▸ hs)
  | acknowledged d attemptedAt hf hle hd hsucc hother _ ho =>
    exact (h.acknowledge hd hle hf hsucc hother attemptedAt).1.queue ho

/-- **The acknowledged event never moves backwards.** -/
lemma AddressStep.acked_mono (h : OutboxRight t ds) (hstep : AddressStep mayFail C t ds t' ds')
    {e : EventId} (he : t.lastNotifiedEventId = some e) :
    ∃ e', t'.lastNotifiedEventId = some e' ∧ e.stateVersion ≤ e'.stateVersion := by
  cases hstep with
  | retotaled hs => exact ⟨e, hs.event.trans he, le_rfl⟩
  | queue _ ho => cases ho <;> exact ⟨e, he, le_rfl⟩
  | moved | lateSuccess => exact ⟨e, he, le_rfl⟩
  | acknowledged d attemptedAt hf hle hd hsucc hother _ ho =>
    have hto : t'.lastNotifiedEventId = some d.eventId := by cases ho <;> rfl
    obtain ⟨d₀, hd₀, rfl, hack, -, -⟩ := h.acked_eq he
    have hid := hle d₀.deliveryId (by rw [ackedDeliveryId, hack]; rfl)
    exact ⟨d.eventId, hto, h.version_le hd₀ hd hid⟩

/-- No delivery has failed for good. -/
def NoFailures (ds : List WebhookDelivery) : Prop :=
  ∀ d ∈ ds, d.deliveryState ≠ .permanentFailure

lemma NoFailures.map {f : WebhookDelivery → WebhookDelivery} (h : NoFailures ds)
    (hf : ∀ d ∈ ds, (f d).deliveryState = d.deliveryState ∨
      (f d).deliveryState ≠ .permanentFailure) : NoFailures (ds.map f) := by
  intro d hd
  obtain ⟨b, hb, rfl⟩ := List.mem_map.mp hd
  rcases hf b hb with heq | hne
  · rw [heq]
    exact h b hb
  · exact hne

lemma NoFailures.queue {now : Timestamp} (h : NoFailures ds)
    (ho : QueueOutcome now t ds t' ds') : NoFailures ds' := by
  cases ho with
  | skipped | cleaned | waiting | ignored => exact h
  | queued _ _ i address =>
    intro d hd
    rcases List.mem_append.mp hd with hd | hd
    · exact h d hd
    · rw [List.mem_singleton.mp hd]
      nofun

/-- The rows after a success of `d`, when the others keep their state. -/
lemma NoFailures.success {f : WebhookDelivery → WebhookDelivery} {d : WebhookDelivery}
    (h : NoFailures ds) (hinj : ∀ d ∈ ds, ∀ d' ∈ ds, d.deliveryId = d'.deliveryId → d = d')
    (hd : d ∈ ds) (hsucc : (f d).deliveryState = .succeeded)
    (hother : ∀ b ∈ ds, b.deliveryId ≠ d.deliveryId → (f b).deliveryState = b.deliveryState) :
    NoFailures (ds.map f) := by
  refine h.map fun b hb => ?_
  by_cases heq : b.deliveryId = d.deliveryId
  · rw [hinj b hb d hd heq, hsucc]
    exact Or.inr nofun
  · exact Or.inl (hother b hb heq)

lemma AddressStep.noFailures (h : OutboxRight t ds) (hn : NoFailures ds)
    (hstep : AddressStep false C t ds t' ds') : NoFailures ds' := by
  cases hstep with
  | retotaled => exact hn
  | queue _ ho => exact hn.queue ho
  | moved hf hst =>
    refine hn.map fun d hd => (hst d hd).imp_right fun hout hfail => ?_
    rcases hout.2 with hout | ⟨hmay, -⟩
    · rw [hfail] at hout
      cases hout
    · cases hmay
  | lateSuccess d hf hlt hd hsucc hother => exact hn.success h.inj hd hsucc hother
  | acknowledged d attemptedAt hf hle hd hsucc hother _ ho =>
    exact (hn.success h.inj hd hsucc hother).queue ho

/-- An address that was just acknowledged is dirty: nothing is claimed of it before the queue
has run. -/
lemma settled_acknowledgedBy (d : WebhookDelivery) (attemptedAt : Timestamp) (t : AddressTotals)
    (ds : List WebhookDelivery) : Settled (acknowledgedBy d attemptedAt t) ds :=
  fun hnd => absurd rfl hnd

/-- **Step lemma**: without failures, an address that is not dirty stays settled. -/
lemma AddressStep.settled (h : OutboxRight t ds) (hn : NoFailures ds) (hs : Settled t ds)
    (hstep : AddressStep false C t ds t' ds') : Settled t' ds' := by
  cases hstep with
  | retotaled hack hv hd =>
    intro hnd
    rcases hd with ⟨hc, hd⟩ | hd
    · rw [hc, hack.baseline]
      exact hs (hd ▸ hnd)
    · exact absurd hd hnd
  | queue _ ho => exact hs.queue h hn ho
  | moved hf hst =>
    intro hnd
    rw [hf.baseline fun d hd _ => ?_]
    · exact hs hnd
    · rcases hst d hd with heq | ⟨h1, h2 | ⟨hmay, -⟩⟩
      · rw [heq]
      · rw [h1, h2]
      · cases hmay
  | lateSuccess d hf hlt hd hsucc hother =>
    intro hnd
    rw [hf.baseline fun b hb hlt' => ?_]
    · exact hs hnd
    · obtain ⟨i, hi, hlt⟩ := hlt
      rw [hi, Option.getD_some] at hlt'
      rw [hother b hb (by omega)]
  | acknowledged d attemptedAt hf hle hd hsucc hother _ ho =>
    have hright := (h.acknowledge hd hle hf hsucc hother attemptedAt).1
    exact (settled_acknowledgedBy d attemptedAt t _).queue hright
      (hn.success h.inj hd hsucc hother) ho

/-! ### From the transactions to the addresses -/

section transactions

variable (db : Db) (p : WebhookDelivery → Bool) {f : WebhookDelivery → WebhookDelivery}
  (hf : ∀ d, (f d).deliveryId = d.deliveryId)

lemma deliveriesOf_setDeliveries (he : SameEvents f) (a : ℕ) :
    (db.setDeliveries p f hf).deliveriesOf a =
      (db.deliveriesOf a).map fun d => if p d then f d else d := by
  unfold Db.deliveriesOf Db.setDeliveries
  rw [Table.rows_update, List.filter_map]
  congr 1
  refine List.filter_congr fun d _ => ?_
  simp only [Function.comp_apply]
  split_ifs
  · rw [he.address]
  · rfl

lemma events_setDeliveries (h : EventsNamed db) (he : SameEvents f) :
    EventsNamed (db.setDeliveries p f hf) := by
  intro d hd
  obtain ⟨b, hb, rfl⟩ := List.mem_map.mp hd
  have := sameEvents_ite he p
  rw [this.event, this.address, h b hb]

end transactions

lemma sameEvents_recoveredRow (now : Timestamp) : SameEvents (recoveredRow now) :=
  ⟨fun _ => rfl, fun _ => rfl, fun _ => rfl, fun _ => rfl⟩

lemma sameEvents_claimedRow : SameEvents claimedRow :=
  ⟨fun _ => rfl, fun _ => rfl, fun _ => rfl, fun _ => rfl⟩

/-- What all parties keep of the rows and of what was posted and processed. -/
structure SystemKept (s : System) : Prop where
  kept : s.db.TotalsKept
  events : EventsNamed s.db
  /-- The receiver has processed nothing that was not posted. -/
  logged : ∀ e ∈ s.log, ∃ d ∈ s.db.webhookDeliveries.rows, d.eventId = e.1 ∧ d.content = e.2
  /-- A success was processed. -/
  succeeded : ∀ d ∈ s.db.webhookDeliveries.rows, d.deliveryState = .succeeded →
    (d.eventId, d.content) ∈ s.log
  /-- What is not waiting for its first attempt was posted. -/
  posted : ∀ d ∈ s.db.webhookDeliveries.rows, d.deliveryState ≠ .queued →
    d.deliveryId ∈ s.posted

/-- What all parties keep. -/
structure SystemRight (s : System) : Prop extends SystemKept s where
  right : ∀ a t, s.db.addressTotals.find? a = some t → OutboxRight t (s.db.deliveriesOf a)

/-- **What the queue does to an address with totals.** -/
lemma queue_step (now : Timestamp) (ids : List ℕ) (hk : db.TotalsKept) (hev : EventsNamed db)
    (ht : db.addressTotals.find? a = some t) :
    ∃ t', (queueWebhookDeliveriesInTx now ids db).2.addressTotals.find? a = some t' ∧
      ((a ∉ ids ∧ t' = t ∧
          (queueWebhookDeliveriesInTx now ids db).2.deliveriesOf a = db.deliveriesOf a) ∨
        (a ∈ ids ∧ QueueOutcome now t (db.deliveriesOf a) t'
          ((queueWebhookDeliveriesInTx now ids db).2.deliveriesOf a))) := by
  have hev' : EventsNamed (([], db) : List ℕ × Db).2 := hev
  obtain ⟨-, -, hother, houtcome⟩ := foldl_queueOne now hev' (nodup_idSet ids)
  by_cases ha : a ∈ ids
  · have hissued : db.issued a = true := by
      rw [← hk a, ht]
      rfl
    obtain ⟨t', ht', ho⟩ := houtcome a (mem_idSet.mpr ha) hissued t ht
    exact ⟨t', ht', Or.inr ⟨ha, ho⟩⟩
  · obtain ⟨h1, h2⟩ := hother a (mt mem_idSet.mp ha)
    exact ⟨t, h1.trans ht, Or.inl ⟨ha, rfl, h2⟩⟩

lemma sending_spec {i : ℕ} {d : WebhookDelivery} (h : s.sending i = some d) :
    s.db.webhookDeliveries.find? i = some d ∧ d.deliveryState = .sending := by
  simpa [System.sending, Option.filter_eq_some_iff] using h

lemma foldl_olderOf (l : List WebhookDelivery) {best : Option WebhookDelivery}
    {d : WebhookDelivery} (h : l.foldl olderOf best = some d) : d ∈ l ∨ best = some d := by
  induction l generalizing best with
  | nil => exact Or.inr h
  | cons c l ih =>
    rcases ih h with hmem | hbest
    · exact Or.inl (List.mem_cons_of_mem c hmem)
    · unfold olderOf at hbest
      rcases best with _ | b
      · cases hbest
        exact Or.inl List.mem_cons_self
      · simp only at hbest
        split_ifs at hbest
        · cases hbest
          exact Or.inl List.mem_cons_self
        · exact Or.inr hbest

lemma oldestReady_mem {now : Timestamp} {d : WebhookDelivery} (h : oldestReady now ds = some d) :
    d ∈ ds ∧ ready now d = true := by
  rcases foldl_olderOf _ h with hmem | hbest
  · exact List.mem_filter.mp hmem
  · cases hbest

lemma ready_outstanding {now : Timestamp} {d : WebhookDelivery} (h : ready now d = true) :
    d.deliveryState.outstanding = true := by
  unfold ready at h
  cases hst : d.deliveryState <;> simp_all [DeliveryState.outstanding]

/-- How the delivery rows change: each keeps its event and content, only worked-on rows change
state, and new rows are queued. -/
structure RowsStep (s s' : System) : Prop where
  persist : ∀ d ∈ s.db.webhookDeliveries.rows, ∃ d' ∈ s'.db.webhookDeliveries.rows,
    d'.eventId = d.eventId ∧ d'.content = d.content
  origin : ∀ d' ∈ s'.db.webhookDeliveries.rows, d'.deliveryState = .queued ∨
    ∃ d ∈ s.db.webhookDeliveries.rows,
      d'.deliveryId = d.deliveryId ∧ d'.eventId = d.eventId ∧ d'.content = d.content ∧
        (d'.deliveryState = d.deliveryState ∨ d.deliveryId ∈ s'.posted ∧
          (d'.deliveryState = .succeeded → (d.eventId, d.content) ∈ s.log))

lemma RowsStep.of_map_append (f : WebhookDelivery → WebhookDelivery)
    (new : List WebhookDelivery)
    (hrows : s'.db.webhookDeliveries.rows = s.db.webhookDeliveries.rows.map f ++ new)
    (hf : SameEvents f) (hnew : ∀ d ∈ new, d.deliveryState = .queued)
    (hst : ∀ d ∈ s.db.webhookDeliveries.rows, (f d).deliveryState = d.deliveryState ∨
      d.deliveryId ∈ s'.posted ∧
        ((f d).deliveryState = .succeeded → (d.eventId, d.content) ∈ s.log)) :
    RowsStep s s' where
  persist d hd := ⟨f d, by rw [hrows]; exact List.mem_append_left _ (List.mem_map_of_mem hd),
    hf.event d, hf.content d⟩
  origin d' hd' := by
    rw [hrows] at hd'
    rcases List.mem_append.mp hd' with hd' | hd'
    · obtain ⟨d, hd, rfl⟩ := List.mem_map.mp hd'
      exact Or.inr ⟨d, hd, hf.id d, hf.event d, hf.content d, hst d hd⟩
    · exact Or.inl (hnew d' hd')

lemma RowsStep.of_rows_eq (h : s'.db.webhookDeliveries.rows = s.db.webhookDeliveries.rows) :
    RowsStep s s' :=
  .of_map_append id [] (by simp [h])
    ⟨fun _ => rfl, fun _ => rfl, fun _ => rfl, fun _ => rfl⟩ (by simp) fun _ _ => Or.inl rfl

/-- One action: what becomes of every address, and of the rows as a whole. -/
structure SystemStep (mayFail : Bool) (C : Considered) (s s' : System) : Prop where
  kept : s'.db.TotalsKept
  issued : s'.db.issuedAddresses = s.db.issuedAddresses
  events : EventsNamed s'.db
  address : ∀ a t, s.db.addressTotals.find? a = some t →
    ∃ t', s'.db.addressTotals.find? a = some t' ∧
      AddressStep mayFail C t (s.db.deliveriesOf a) t' (s'.db.deliveriesOf a)
  rows : RowsStep s s'
  log : ∀ e ∈ s'.log, e ∈ s.log ∨ ∃ d ∈ s.db.webhookDeliveries.rows, e = (d.eventId, d.content)
  grows : (∀ e ∈ s.log, e ∈ s'.log) ∧ ∀ i ∈ s.posted, i ∈ s'.posted

lemma AddressStep.refl (mayFail : Bool) (C : Considered) (t : AddressTotals)
    (ds : List WebhookDelivery) :
    AddressStep mayFail C t ds t ds :=
  .retotaled ⟨rfl, rfl, rfl⟩ (Or.inl ⟨rfl, rfl⟩) (Or.inl ⟨rfl, rfl⟩)

/-- An action that writes neither totals nor deliveries. -/
lemma SystemStep.of_db_eq (h : SystemKept s) (hdb : s'.db = s.db)
    (hlog : ∀ e ∈ s'.log, e ∈ s.log ∨
      ∃ d ∈ s.db.webhookDeliveries.rows, e = (d.eventId, d.content))
    (hgrows : (∀ e ∈ s.log, e ∈ s'.log) ∧ ∀ i ∈ s.posted, i ∈ s'.posted) :
    SystemStep mayFail C s s' where
  kept := hdb ▸ h.kept
  issued := by rw [hdb]
  events := hdb ▸ h.events
  address a t ht := ⟨t, by rw [hdb, ht], by rw [hdb]; exact .refl _ _ _ _⟩
  rows := .of_rows_eq (by rw [hdb])
  log := hlog
  grows := hgrows

/-- An address of the new state was there before, and took a step. -/
lemma SystemStep.address_of (h : SystemKept s) (hs : SystemStep mayFail C s s')
    (ht' : s'.db.addressTotals.find? a = some t') :
    ∃ t, s.db.addressTotals.find? a = some t ∧
      AddressStep mayFail C t (s.db.deliveriesOf a) t' (s'.db.deliveriesOf a) := by
  have hsome : (s.db.addressTotals.find? a).isSome = true := by
    rw [h.kept a, Db.issued, ← hs.issued, ← Db.issued, ← hs.kept a, ht']
    rfl
  obtain ⟨t, ht⟩ := Option.isSome_iff_exists.mp hsome
  obtain ⟨t₁, ht₁, hstep⟩ := hs.address a t ht
  rw [ht₁] at ht'
  cases ht'
  exact ⟨t, ht, hstep⟩

lemma SystemStep.keeps (h : SystemKept s) (hs : SystemStep mayFail C s s') : SystemKept s' where
  kept := hs.kept
  events := hs.events
  logged e he := by
    obtain ⟨d, hd, hde, hdc⟩ : ∃ d ∈ s.db.webhookDeliveries.rows,
        d.eventId = e.1 ∧ d.content = e.2 := by
      rcases hs.log e he with he | ⟨d, hd, rfl⟩
      · exact h.logged e he
      · exact ⟨d, hd, rfl, rfl⟩
    obtain ⟨d', hd', he', hc'⟩ := hs.rows.persist d hd
    exact ⟨d', hd', he'.trans hde, hc'.trans hdc⟩
  succeeded d' hd' hst := by
    rcases hs.rows.origin d' hd' with hq | ⟨d, hd, -, he, hc, hcase⟩
    · rw [hq] at hst
      cases hst
    · rw [he, hc]
      rcases hcase with heq | ⟨-, hlog⟩
      · exact hs.grows.1 _ (h.succeeded d hd (heq ▸ hst))
      · exact hs.grows.1 _ (hlog hst)
  posted d' hd' hst := by
    rcases hs.rows.origin d' hd' with hq | ⟨d, hd, hid, -, -, hcase⟩
    · exact absurd hq hst
    · rw [hid]
      rcases hcase with heq | ⟨hp, -⟩
      · exact hs.grows.2 _ (h.posted d hd (heq ▸ hst))
      · exact hp

/-- **Step lemma**: every action keeps the invariant of the system. -/
lemma SystemStep.right (h : SystemRight s) (hs : SystemStep mayFail C s s') : SystemRight s' where
  toSystemKept := hs.keeps h.toSystemKept
  right a t' ht' := by
    obtain ⟨t, ht, hstep⟩ := hs.address_of h.toSystemKept ht'
    exact hstep.right (h.right a t ht)

/-! ### Every action is such a step -/

lemma retotaled_sameAck {p : Pending} {tip : ℤ} {now : Timestamp} {label : String}
    (t : AddressTotals) : SameAck t (p.retotaled tip finality now label db t) := by
  unfold Pending.retotaled
  split_ifs <;> exact ⟨rfl, rfl, rfl⟩

lemma TotalsStep.addressStep {ids : List ℕ} (h : TotalsStep ids t t') (hs : SameAck t t') :
    AddressStep mayFail C t ds t' ds := by
  by_cases hc : t'.content = t.content
  · have hv := h.version
    rw [if_pos hc, Nat.add_zero] at hv
    exact .retotaled hs (Or.inl ⟨hc, hv⟩) (Or.inl ⟨hc, h.kept hc⟩)
  · have hv := h.version
    rw [if_neg hc] at hv
    exact .retotaled hs (Or.inr hv) (Or.inr (h.dirty hc))

lemma ledger_systemStep (h : SystemKept s) (now : Timestamp) (op : LedgerOp) :
    SystemStep mayFail C s (s.commit ((op.run cutoffOf finality now s.db).map Prod.snd)) := by
  rcases hr : op.run cutoffOf finality now s.db with e | ⟨ids, db'⟩
  · exact .of_db_eq h rfl (fun e he => Or.inl he) ⟨fun _ he => he, fun _ hi => hi⟩
  · obtain ⟨p, label, -, -, hc⟩ := op.run_ok hr
    have heq := Pending.commit_ok hc
    refine ⟨fun a => ?_, by rw [heq]; rfl, by rw [heq]; exact h.events, fun a t ht => ?_,
      .of_rows_eq (by rw [heq]; rfl), fun e he => Or.inl he, fun _ he => he, fun _ hi => hi⟩
    · show (db'.addressTotals.find? a).isSome = db'.issued a
      rw [Pending.commit_find? hc, Option.isSome_map, heq]
      exact h.kept a
    · refine ⟨p.retotaled op.tip finality now label s.db t, ?_, ?_⟩
      · show db'.addressTotals.find? a = _
        rw [Pending.commit_find? hc, ht]
        rfl
      · have hds : db'.deliveriesOf a = s.db.deliveriesOf a := by rw [heq]; rfl
        show AddressStep mayFail C t _ _ (db'.deliveriesOf a)
        rw [hds]
        exact (p.retotaled_step op.tip finality now label s.db t).addressStep
          (retotaled_sameAck t)

/-- The totals and deliveries of the addresses a call of the queue names. -/
def Calls (call : Option (Db × List ℕ)) : Considered := fun t ds =>
  ∃ db ids, call = some (db, ids) ∧ t.addressId ∈ ids ∧
    db.addressTotals.find? t.addressId = some t ∧ db.deliveriesOf t.addressId = ds

lemma queue_systemStep (h : SystemKept s) (now : Timestamp) (ids : List ℕ) :
    SystemStep mayFail (Calls (some (s.db, ids))) s
      { s with db := (queueWebhookDeliveriesInTx now ids s.db).2 } := by
  have hev : EventsNamed (([], s.db) : List ℕ × Db).2 := h.events
  have hk : (([], s.db) : List ℕ × Db).2.TotalsKept := h.kept
  obtain ⟨hev', hissued, -, -⟩ := foldl_queueOne now hev (nodup_idSet ids)
  obtain ⟨new, hrows, hnew⟩ := foldl_queueOne_rows now ([], s.db) (idSet ids)
  refine ⟨foldl_queueOne_kept now (idSet ids) hk, hissued, hev', fun a t ht => ?_,
    .of_map_append id new (by rw [List.map_id]; exact hrows)
      ⟨fun _ => rfl, fun _ => rfl, fun _ => rfl, fun _ => rfl⟩ (fun d hd => (hnew d hd).1)
      fun _ _ => Or.inl rfl,
    fun e he => Or.inl he, fun _ he => he, fun _ hi => hi⟩
  obtain ⟨t', ht', ⟨-, rfl, hds⟩ | ⟨ha, ho⟩⟩ := queue_step now ids h.kept h.events ht
  · exact ⟨t', ht', by
      show AddressStep mayFail _ t' _ t'
        ((queueWebhookDeliveriesInTx now ids s.db).2.deliveriesOf a)
      rw [hds]
      exact .refl _ _ _ _⟩
  · obtain rfl : t.addressId = a := Table.key_of_find? ht
    exact ⟨t', ht', .queue ⟨s.db, ids, rfl, ha, ht, rfl⟩ ho⟩

lemma queueForDirty_systemStep (h : SystemKept s) (now : Timestamp) (ids : List ℕ) :
    SystemStep mayFail (Calls (some (s.db, ids))) s
      { s with db := (queueWebhookDeliveriesForDirtyAddresses now ids s.db).2 } := by
  unfold queueWebhookDeliveriesForDirtyAddresses
  split_ifs
  · exact .of_db_eq h rfl (fun e he => Or.inl he) ⟨fun _ he => he, fun _ hi => hi⟩
  · exact queue_systemStep h now ids

/-- A write that moves selected outstanding deliveries to a state that is not a success. -/
lemma setDeliveries_systemStep (h : SystemKept s) {p : WebhookDelivery → Bool}
    {f : WebhookDelivery → WebhookDelivery} (hf : SameEvents f)
    (htotals : s'.db.addressTotals = s.db.addressTotals)
    (hissued : s'.db.issuedAddresses = s.db.issuedAddresses)
    (hrows : s'.db.webhookDeliveries = (s.db.setDeliveries p f hf.id).webhookDeliveries)
    (hlog : s'.log = s.log) (hposted : ∀ i ∈ s.posted, i ∈ s'.posted)
    (hp : ∀ d ∈ s.db.webhookDeliveries.rows, p d = true →
      d.deliveryState.outstanding = true ∧ d.deliveryId ∈ s'.posted ∧
        ((f d).deliveryState.outstanding = true ∨
          mayFail = true ∧ (f d).deliveryState = .permanentFailure)) :
    SystemStep mayFail C s s' := by
  have hds : ∀ a, s'.db.deliveriesOf a =
      (s.db.deliveriesOf a).map fun d => if p d then f d else d := by
    intro a
    rw [← deliveriesOf_setDeliveries s.db p hf.id hf]
    unfold Db.deliveriesOf
    rw [hrows]
  have hev : EventsNamed (s.db.setDeliveries p f hf.id) :=
    events_setDeliveries s.db p hf.id h.events hf
  refine ⟨fun a => ?_, hissued, fun d hd => hev d (hrows ▸ hd), fun a t ht => ?_,
    .of_map_append _ [] (by rw [hrows, List.append_nil]; rfl) (sameEvents_ite hf p) (by simp)
      fun d hd => ?_,
    fun e he => Or.inl (hlog ▸ he), fun e he => hlog ▸ he, hposted⟩
  · rw [htotals, Db.issued, hissued]
    exact h.kept a
  · refine ⟨t, htotals ▸ ht, ?_⟩
    rw [hds a]
    refine .moved (sameEvents_ite hf p) fun d hd => ?_
    split_ifs with hpd
    · obtain ⟨hout, -, hst⟩ := hp d (mem_deliveriesOf.mp hd).1 hpd
      exact Or.inr ⟨hout, hst⟩
    · exact Or.inl rfl
  · split_ifs with hpd
    · obtain ⟨-, hpost, hst⟩ := hp d hd hpd
      refine Or.inr ⟨hpost, fun hs => ?_⟩
      rw [hs] at hst
      rcases hst with hst | ⟨-, hst⟩ <;> cases hst
    · exact Or.inl rfl

/-- The delivery that is being sent is the only row with its id. -/
lemma eq_of_sending {d b : WebhookDelivery} {i : ℕ} (hs : s.sending i = some d)
    (hb : b ∈ s.db.webhookDeliveries.rows) (hi : b.deliveryId = i) : b = d := by
  have hf := (sending_spec hs).1
  exact Table.eq_of_key hb (Table.mem_of_find? hf) (hi.trans (Table.key_of_find? hf).symm)

lemma sending_posted (h : SystemKept s) {d : WebhookDelivery} {i : ℕ}
    (hs : s.sending i = some d) : d.deliveryId ∈ s.posted := by
  obtain ⟨hf, hst⟩ := sending_spec hs
  exact h.posted d (Table.mem_of_find? hf) (by rw [hst]; nofun)

/-- A retry or a permanent failure of the delivery that is being sent. -/
lemma attempt_systemStep (h : SystemKept s) {d : WebhookDelivery} {outcome : Attempt}
    {state : DeliveryState} (next : Option Timestamp)
    (hs : s.sending outcome.deliveryId = some d)
    (hst : state.outstanding = true ∨ mayFail = true ∧ state = .permanentFailure) :
    SystemStep mayFail C s { s with db := s.db.recordAttempt outcome state next } := by
  refine setDeliveries_systemStep h (sameEvents_attemptedRow outcome state next) rfl rfl rfl rfl
    (fun i hi => hi) fun b hb hp => ?_
  obtain rfl := eq_of_sending hs hb (of_decide_eq_true hp)
  refine ⟨?_, sending_posted h hs, hst⟩
  rw [(sending_spec hs).2]
  rfl

section success

variable {d : WebhookDelivery} {outcome : Attempt}

/-- The row update of a success. -/
def succeededRow (outcome : Attempt) (b : WebhookDelivery) : WebhookDelivery :=
  if b.deliveryId = outcome.deliveryId then attemptedRow outcome .succeeded none b else b

lemma sameEvents_succeededRow (outcome : Attempt) : SameEvents (succeededRow outcome) := by
  have h := sameEvents_ite (sameEvents_attemptedRow outcome .succeeded none)
    fun b => decide (b.deliveryId = outcome.deliveryId)
  unfold succeededRow
  simpa using h

lemma deliveriesOf_succeeded (db : Db) (outcome : Attempt) (a : ℕ) :
    (db.recordAttempt outcome .succeeded none).deliveriesOf a =
      (db.deliveriesOf a).map (succeededRow outcome) := by
  have h := deliveriesOf_setDeliveries db (fun b => decide (b.deliveryId = outcome.deliveryId))
    (deliveryId_attemptedRow outcome .succeeded none)
    (sameEvents_attemptedRow outcome .succeeded none) a
  simp only [decide_eq_true_eq] at h
  exact h

lemma rows_succeeded (db : Db) (outcome : Attempt) :
    (db.recordAttempt outcome .succeeded none).webhookDeliveries.rows =
      db.webhookDeliveries.rows.map (succeededRow outcome) := by
  unfold succeededRow
  simp [Db.recordAttempt, Db.setDeliveries]

lemma deliveriesOf_acknowledge (db : Db) (d : WebhookDelivery) (outcome : Attempt) (a : ℕ) :
    (db.acknowledge d outcome).deliveriesOf a =
      (db.deliveriesOf a).map (succeededRow outcome) :=
  deliveriesOf_succeeded db outcome a

lemma find?_acknowledge (db : Db) (d : WebhookDelivery) (outcome : Attempt) (a : ℕ) :
    (db.acknowledge d outcome).addressTotals.find? a =
      (db.addressTotals.find? a).map fun t =>
        if a = d.addressId then acknowledgedBy d outcome.attemptedAt t else t := by
  rw [Db.acknowledge, find?_setTotals]
  rfl

lemma events_acknowledge (h : EventsNamed db) (d : WebhookDelivery) (outcome : Attempt) :
    EventsNamed (db.acknowledge d outcome) :=
  events_setDeliveries db _ (deliveryId_attemptedRow outcome .succeeded none) h
    (sameEvents_attemptedRow outcome .succeeded none)

lemma kept_acknowledge (h : db.TotalsKept) (d : WebhookDelivery) (outcome : Attempt) :
    (db.acknowledge d outcome).TotalsKept := by
  intro b
  rw [find?_acknowledge, Option.isSome_map]
  exact h b

/-- The test for a late success, in terms of the rows before it. -/
lemma ackedIsNewer_eq (db : Db) (d : WebhookDelivery) (outcome : Attempt)
    (ht : db.addressTotals.find? d.addressId = some t) :
    ackedIsNewer (db.recordAttempt outcome .succeeded none) d =
      (ackedDeliveryId t (db.deliveriesOf d.addressId)).any (d.deliveryId < ·) := by
  have ht' : (db.recordAttempt outcome .succeeded none).addressTotals.find? d.addressId =
      some t := ht
  rw [ackedIsNewer, ht', Option.any_some, deliveriesOf_succeeded,
    (sameEvents_succeededRow outcome).ackedDeliveryId]

variable (h : SystemKept s) (hs : s.sending outcome.deliveryId = some d)

include hs

lemma succeededRow_state :
    (succeededRow outcome d).deliveryState = .succeeded ∧
      ∀ b ∈ s.db.webhookDeliveries.rows, b.deliveryId ≠ d.deliveryId →
        (succeededRow outcome b).deliveryState = b.deliveryState := by
  have hid := Table.key_of_find? (sending_spec hs).1
  refine ⟨by rw [succeededRow, if_pos hid]; rfl, fun b _ hne => ?_⟩
  rw [succeededRow, if_neg fun heq => hne (heq.trans hid.symm)]

/-- An address the success is not about sees none of its rows change state. -/
lemma succeeded_other (hne : a ≠ d.addressId) :
    AddressStep mayFail C t (s.db.deliveriesOf a) t
      ((s.db.deliveriesOf a).map (succeededRow outcome)) := by
  refine .moved (sameEvents_succeededRow outcome) fun b hb => Or.inl ?_
  obtain ⟨hmem, hba⟩ := mem_deliveriesOf.mp hb
  refine (succeededRow_state hs).2 b hmem fun heq => hne ?_
  rw [← hba, eq_of_sending hs hmem (heq.trans (Table.key_of_find? (sending_spec hs).1))]

include h

lemma succeeded_rows {new : List WebhookDelivery}
    (hlog : (d.eventId, d.content) ∈ s.log)
    (hrows : s'.db.webhookDeliveries.rows =
      s.db.webhookDeliveries.rows.map (succeededRow outcome) ++ new)
    (hnew : ∀ b ∈ new, b.deliveryState = .queued) (hposted : s'.posted = s.posted) :
    RowsStep s s' := by
  refine .of_map_append _ new hrows (sameEvents_succeededRow outcome) hnew fun b hb => ?_
  by_cases heq : b.deliveryId = d.deliveryId
  · obtain rfl := eq_of_sending hs hb (heq.trans (Table.key_of_find? (sending_spec hs).1))
    exact Or.inr ⟨hposted ▸ sending_posted h hs, fun _ => hlog⟩
  · exact Or.inl ((succeededRow_state hs).2 b hb heq)

lemma success_systemStep (now : Timestamp) (hlog : (d.eventId, d.content) ∈ s.log) :
    SystemStep mayFail (Calls (s.queueCall (.success now outcome))) s
      (s.commit (recordWebhookDeliverySuccess outcome now s.db)) := by
  obtain ⟨hfind, -⟩ := sending_spec hs
  have hd : d ∈ s.db.deliveriesOf d.addressId :=
    mem_deliveriesOf.mpr ⟨Table.mem_of_find? hfind, rfl⟩
  obtain ⟨hsucc, hother⟩ := succeededRow_state hs
  have hother' : ∀ b ∈ s.db.deliveriesOf d.addressId, b.deliveryId ≠ d.deliveryId →
      (succeededRow outcome b).deliveryState = b.deliveryState :=
    fun b hb => hother b (mem_deliveriesOf.mp hb).1
  unfold recordWebhookDeliverySuccess
  rw [hfind]
  simp only
  split_ifs with hlate
  · -- A newer event is acknowledged already: only the row changes.
    refine ⟨h.kept, rfl, events_acknowledge h.events d outcome, fun a t ht => ⟨t, ht, ?_⟩,
      succeeded_rows h hs hlog (by rw [List.append_nil]; exact rows_succeeded s.db outcome)
        (by simp) rfl,
      fun e he => Or.inl he, fun _ he => he, fun _ hi => hi⟩
    show AddressStep mayFail _ t _ t
      ((s.db.recordAttempt outcome .succeeded none).deliveriesOf a)
    rw [deliveriesOf_succeeded]
    by_cases ha : a = d.addressId
    · subst ha
      rw [ackedIsNewer_eq s.db d outcome ht] at hlate
      obtain ⟨i, hi, hlt⟩ := (Option.any_eq_true _ _).mp hlate
      exact .lateSuccess d (sameEvents_succeededRow outcome) ⟨i, hi, of_decide_eq_true hlt⟩ hd
        hsucc hother'
    · exact succeeded_other hs ha
  · have hk : (([], s.db.acknowledge d outcome) : List ℕ × Db).2.TotalsKept :=
      kept_acknowledge h.kept d outcome
    have hev : EventsNamed (([], s.db.acknowledge d outcome) : List ℕ × Db).2 :=
      events_acknowledge h.events d outcome
    obtain ⟨hevq, hissued, -, -⟩ := foldl_queueOne now hev (nodup_idSet [d.addressId])
    obtain ⟨new, hrows, hnew⟩ :=
      foldl_queueOne_rows now ([], s.db.acknowledge d outcome) (idSet [d.addressId])
    refine ⟨foldl_queueOne_kept now _ hk, hissued, hevq, fun a t ht => ?_,
      succeeded_rows h hs hlog (hrows.trans (by rw [← rows_succeeded]; rfl))
        (fun b hb => (hnew b hb).1) rfl,
      fun e he => Or.inl he, fun _ he => he, fun _ hi => hi⟩
    have ht₁ := find?_acknowledge s.db d outcome a
    rw [show s.db.addressTotals.find? a = some t from ht, Option.map_some] at ht₁
    obtain ⟨t', ht', hcase⟩ := queue_step now [d.addressId] hk hev ht₁
    refine ⟨t', ht', ?_⟩
    rw [deliveriesOf_acknowledge, List.mem_singleton] at hcase
    rcases hcase with ⟨ha, rfl, hds'⟩ | ⟨rfl, ho⟩
    · rw [if_neg ha]
      show AddressStep mayFail _ t _ t
        ((queueWebhookDeliveriesInTx now [d.addressId] (s.db.acknowledge d outcome)).2.deliveriesOf
          a)
      rw [hds']
      exact succeeded_other hs ha
    · rw [if_pos rfl] at ho ht₁
      have hta : (acknowledgedBy d outcome.attemptedAt t).addressId = d.addressId :=
        Table.key_of_find? ht₁
      refine .acknowledged d outcome.attemptedAt (sameEvents_succeededRow outcome)
        (fun i hi => ?_) hd hsucc hother'
        ⟨s.db.acknowledge d outcome, [d.addressId], ?_, List.mem_singleton.mpr hta, hta ▸ ht₁,
          by rw [hta, deliveriesOf_acknowledge]⟩ ho
      · rw [ackedIsNewer_eq s.db d outcome ht, hi] at hlate
        simpa using hlate
      · rw [System.queueCall, hs, Option.bind_some, if_neg hlate]

end success

/-- **Inversion**: what any action does. -/
lemma System.step_spec (h : SystemKept s) (hstep : s.step cutoffOf finality act = some s') :
    SystemStep act.isPermanentFailure (Calls (s.queueCall act)) s s' := by
  cases act with
  | ledger now op =>
    cases hstep
    exact ledger_systemStep h now op
  | queue now ids =>
    cases hstep
    exact queueForDirty_systemStep h now ids
  | queueAllDirty now =>
    cases hstep
    exact queueForDirty_systemStep h now _
  | recover now =>
    cases hstep
    refine setDeliveries_systemStep h (sameEvents_recoveredRow now) rfl rfl rfl rfl
      (fun i hi => hi) fun d hd hp => ?_
    have hst : d.deliveryState = .sending := of_decide_eq_true hp
    exact ⟨by rw [hst]; rfl, h.posted d hd (by rw [hst]; nofun), Or.inl rfl⟩
  | claim now =>
    cases hstep
    unfold claimReadyWebhookDelivery
    rcases hr : oldestReady now s.db.webhookDeliveries.rows with _ | d
    · exact .of_db_eq h rfl (fun e he => Or.inl he)
        ⟨fun _ he => he, fun i hi => List.mem_append_right _ hi⟩
    · obtain ⟨hd, hready⟩ := oldestReady_mem hr
      refine setDeliveries_systemStep h sameEvents_claimedRow rfl rfl rfl rfl
        (fun i hi => List.mem_append_right _ hi) fun b hb hp => ?_
      obtain rfl := Table.eq_of_key hb hd (of_decide_eq_true hp)
      exact ⟨ready_outstanding hready, by simp, Or.inl rfl⟩
  | process i =>
    simp only [System.step] at hstep
    split_ifs at hstep
    obtain ⟨d, hd, rfl⟩ := Option.map_eq_some_iff.mp hstep
    refine .of_db_eq h rfl (fun e he => ?_)
      ⟨fun e he => List.mem_append_left _ he, fun i hi => hi⟩
    rcases List.mem_append.mp he with he | he
    · exact Or.inl he
    · exact Or.inr ⟨d, Table.mem_of_find? hd, List.mem_singleton.mp he⟩
  | success now outcome =>
    obtain ⟨d, hd, rfl⟩ := Option.map_eq_some_iff.mp hstep
    obtain ⟨hs, hlog⟩ := Option.filter_eq_some_iff.mp hd
    exact success_systemStep h hs now (of_decide_eq_true hlog)
  | retry outcome next =>
    obtain ⟨d, hs, rfl⟩ := Option.map_eq_some_iff.mp hstep
    have hfind := (sending_spec hs).1
    unfold recordWebhookDeliveryRetry
    rw [if_pos (by rw [hfind]; rfl)]
    exact attempt_systemStep h (some next) hs (Or.inl rfl)
  | permanentFailure outcome =>
    obtain ⟨d, hs, rfl⟩ := Option.map_eq_some_iff.mp hstep
    have hfind := (sending_spec hs).1
    unfold recordWebhookDeliveryPermanentFailure
    rw [if_pos (by rw [hfind]; rfl)]
    exact attempt_systemStep h none hs (Or.inr ⟨rfl, rfl⟩)

end ZcashPayment

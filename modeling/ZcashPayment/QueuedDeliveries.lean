import ZcashPayment.FailedDeliveries

/-!
What it means that an address is queued for the webhook.

The queue inserts a delivery under an event id that is made of the version, and an id that
exists already is ignored. A change of `REQUIRED_CONFIRMATIONS` rebuilds the arrays without
moving a version, and a delivery that failed for good keeps its id, so the queue can come to an
address whose content no delivery will bring while the id of its version is taken. In every
other case there is an outstanding delivery of the current content.
-/

namespace ZcashPayment

variable {cutoffOf : Timestamp → Except AppError Timestamp} {finality : ℕ} {s s' : System}
  {now : Timestamp} {a : ℕ} {t t' : AddressTotals} {ds ds' : List WebhookDelivery} {db : Db}

/-! ### Runs in which the setting changes -/

/-- An action of a party, or a start that applies `REQUIRED_CONFIRMATIONS`. -/
inductive Event where
  | act (act : Action)
  | applyRequiredConfirmations (required : Option ℕ)

/-- Neither a permanent failure nor a rebuild. -/
def Event.steady : Event → Bool
  | .act action => !action.isPermanentFailure
  | .applyRequiredConfirmations _ => false

namespace System

variable (cutoffOf : Timestamp → Except AppError Timestamp) (finality : ℕ)

def event (s : System) : Event → Option System
  | .act act => s.step cutoffOf finality act
  | .applyRequiredConfirmations required =>
    some { s with db := ZcashPayment.applyRequiredConfirmations s.db required }

def runEvents : List Event → System → Option System
  | [], s => some s
  | e :: es, s => (s.event cutoffOf finality e).bind (runEvents es)

end System

/-! ### The outbox up to the array -/

def AddressTotals.withArray (t : AddressTotals) (array : Option (List ℤ)) : AddressTotals :=
  { t with receivedByConfirmations := array }

/-- The outbox is right for the array the totals had before they were silently rebuilt. -/
def RightUpToArray (t : AddressTotals) (ds : List WebhookDelivery) : Prop :=
  ∃ array, OutboxRight (t.withArray array) ds

lemma OutboxRight.upToArray (h : OutboxRight t ds) : RightUpToArray t ds :=
  ⟨t.receivedByConfirmations, h⟩

/-- No delivery reports the current version yet, so none can report it wrongly. -/
lemma RightUpToArray.right_of_unused (h : RightUpToArray t ds)
    (hn : ∀ d ∈ ds, d.eventId ≠ ⟨t.addressId, t.stateVersion⟩) : OutboxRight t ds := by
  obtain ⟨array, h⟩ := h
  refine ⟨⟨h.inj, h.pos, h.named, h.version, fun d hd hv => absurd ?_ (hn d hd), h.ordered⟩,
    h.acked, h.unacked, h.succeeded⟩
  have hnamed : d.eventId.addressId = t.addressId := h.named d hd
  rw [← hnamed, ← hv]

lemma RightUpToArray.queue (h : RightUpToArray t ds) (ho : QueueOutcome now t ds t' ds') :
    RightUpToArray t' ds' := by
  cases ho with
  | skipped => exact h
  | cleaned =>
    obtain ⟨array, h⟩ := h
    exact ⟨array, h.bump ⟨rfl, rfl, rfl⟩ (Or.inl ⟨rfl, rfl⟩)⟩
  | waiting | ignored =>
    obtain ⟨array, h⟩ := h
    exact ⟨array, h.bump ⟨rfl, rfl, rfl⟩ (Or.inl ⟨rfl, rfl⟩)⟩
  | queued hd hb i address hi hn =>
    exact ((h.right_of_unused hn).queue (.queued hd hb i address hi hn)).upToArray

lemma RightUpToArray.map {f : WebhookDelivery → WebhookDelivery} (h : RightUpToArray t ds)
    (hf : SameEvents f) (hst : ∀ d ∈ ds, (f d).deliveryState = d.deliveryState) :
    RightUpToArray t (ds.map f) := by
  obtain ⟨array, h⟩ := h
  exact ⟨array, h.map hf (fun d hd hs => (hst d hd).trans hs)
    fun d hd hs => Or.inl ((hst d hd).symm.trans hs)⟩

lemma RightUpToArray.acknowledge {d : WebhookDelivery} {f : WebhookDelivery → WebhookDelivery}
    (attemptedAt : Timestamp) (h : RightUpToArray t ds) (hd : d ∈ ds)
    (hle : ∀ i, ackedDeliveryId t ds = some i → i ≤ d.deliveryId) (hf : SameEvents f)
    (hsucc : (f d).deliveryState = .succeeded)
    (hother : ∀ b ∈ ds, b.deliveryId ≠ d.deliveryId → (f b).deliveryState = b.deliveryState) :
    RightUpToArray (acknowledgedBy d attemptedAt t) (ds.map f) := by
  obtain ⟨array, h⟩ := h
  exact ⟨array, (h.acknowledge hd hle hf hsucc hother attemptedAt).1⟩

/-- **Step lemma**: every change of an address keeps its outbox right up to the array. -/
lemma AddressStep.upToArray {mayFail : Bool} {C : Considered} (h : RightUpToArray t ds)
    (hstep : AddressStep mayFail C t ds t' ds') : RightUpToArray t' ds' := by
  cases hstep with
  | retotaled hs hv =>
    obtain ⟨array, h⟩ := h
    rcases hv with ⟨hc, hv⟩ | hv
    · refine ⟨array, h.bump ⟨hs.address, hs.event, hs.notified⟩ (Or.inl ⟨?_, hv⟩)⟩
      have htotal : t'.currentTotalZat = t.currentTotalZat := congrArg Prod.fst hc
      exact congrArg (·, array) htotal
    · exact ⟨t'.receivedByConfirmations, h.bump ⟨hs.address, hs.event, hs.notified⟩ (Or.inr hv)⟩
  | queue _ ho => exact h.queue ho
  | moved hf hst =>
    obtain ⟨array, h⟩ := h
    exact ⟨array, AddressStep.right h (.moved (C := C) hf hst)⟩
  | lateSuccess d hf hlt hd hsucc hother =>
    obtain ⟨array, h⟩ := h
    have hstep : AddressStep mayFail C (t.withArray array) ds (t.withArray array) _ :=
      .lateSuccess d hf hlt hd hsucc hother
    exact ⟨array, hstep.right h⟩
  | acknowledged d attemptedAt hf hle hd hsucc hother _ ho =>
    exact (h.acknowledge attemptedAt hd hle hf hsucc hother).queue ho

/-- What every run keeps. -/
structure SystemUpToArray (s : System) : Prop extends SystemKept s where
  right : ∀ a t, s.db.addressTotals.find? a = some t → RightUpToArray t (s.db.deliveriesOf a)

lemma SystemUpToArray.rebuild (h : SystemUpToArray s) (required : Option ℕ) :
    SystemUpToArray { s with db := applyRequiredConfirmations s.db required } := by
  have hrows : ∀ a, (applyRequiredConfirmations s.db required).deliveriesOf a
      = s.db.deliveriesOf a := by
    intro a
    unfold applyRequiredConfirmations
    split_ifs <;> rfl
  have hdeliveries : (applyRequiredConfirmations s.db required).webhookDeliveries
      = s.db.webhookDeliveries := by
    unfold applyRequiredConfirmations
    split_ifs <;> rfl
  have htotals : ∀ a t', (applyRequiredConfirmations s.db required).addressTotals.find? a
      = some t' → ∃ t array, s.db.addressTotals.find? a = some t ∧ t' = t.withArray array := by
    intro a t' ht'
    unfold applyRequiredConfirmations at ht'
    split_ifs at ht'
    · exact ⟨t', t'.receivedByConfirmations, ht', rfl⟩
    · simp only [Table.find?_update, Option.map_eq_some_iff] at ht'
      obtain ⟨t, ht, rfl⟩ := ht'
      exact ⟨t, _, ht, rfl⟩
  refine ⟨⟨fun a => ?_, ?_, ?_, ?_, ?_⟩, fun a t' ht' => ?_⟩
  · show _ = (applyRequiredConfirmations s.db required).issued a
    have hk := h.kept a
    unfold applyRequiredConfirmations
    split_ifs
    · exact hk
    · simp only [Table.find?_update, Option.isSome_map]
      exact hk
  · exact fun d hd => h.events d (hdeliveries ▸ hd)
  · exact fun e he => by
      obtain ⟨d, hd, hde⟩ := h.logged e he
      exact ⟨d, hdeliveries.symm ▸ hd, hde⟩
  · exact fun d hd => h.succeeded d (hdeliveries ▸ hd)
  · exact fun d hd => h.posted d (hdeliveries ▸ hd)
  · obtain ⟨t, array, ht, rfl⟩ := htotals a t' ht'
    rw [hrows]
    obtain ⟨array', hr⟩ := h.right a t ht
    exact ⟨array', hr⟩

lemma SystemUpToArray.event (h : SystemUpToArray s) {e : Event}
    (he : s.event cutoffOf finality e = some s') : SystemUpToArray s' := by
  cases e with
  | act act =>
    have hs := System.step_spec h.toSystemKept he
    refine ⟨hs.keeps h.toSystemKept, fun a t' ht' => ?_⟩
    obtain ⟨t, ht, hstep⟩ := hs.address_of h.toSystemKept ht'
    exact hstep.upToArray (h.right a t ht)
  | applyRequiredConfirmations required =>
    cases he
    exact h.rebuild required

/-- **Invariant along every run.** -/
lemma SystemUpToArray.run (h : SystemUpToArray s) {es : List Event}
    (hr : System.runEvents cutoffOf finality es s = some s') : SystemUpToArray s' := by
  induction es generalizing s with
  | nil =>
    cases hr
    exact h
  | cons e es ih =>
    rw [System.runEvents] at hr
    obtain ⟨s₁, he, hr⟩ := Option.bind_eq_some_iff.mp hr
    exact ih (h.event he) hr

/-! ### The ids the queue returns -/

lemma queueOne_ids {acc : List ℕ × Db} {b : ℕ} (hb : b ∈ (queueOne now acc a).1) :
    b ∈ acc.1 ∨ b = a ∧ ∃ t, acc.2.addressTotals.find? a = some t ∧ t.dirtyState = .dirty ∧
      t.content ≠ baseline t (acc.2.deliveriesOf a) := by
  unfold queueOne at hb
  dsimp only at hb
  split at hb
  next issued t _ ht =>
    split_ifs at hb with hd hc ho
    · exact .inl hb
    · exact .inl hb
    · exact .inl hb
    · rcases List.mem_append.mp hb with hb | hb
      · exact .inl hb
      · exact .inr ⟨List.mem_singleton.mp hb, t, ht, not_not.mp hd, hc⟩
  next => exact .inl hb

/-- An address is only returned when it was dirty and its content was not the baseline. -/
lemma foldl_queueOne_ids {ids : List ℕ} (hids : ids.Nodup) {acc : List ℕ × Db}
    (ha : a ∈ (ids.foldl (queueOne now) acc).1) :
    a ∈ acc.1 ∨ a ∈ ids ∧ ∃ t, acc.2.addressTotals.find? a = some t ∧ t.dirtyState = .dirty ∧
      t.content ≠ baseline t (acc.2.deliveriesOf a) := by
  induction ids generalizing acc with
  | nil => exact .inl ha
  | cons b ids ih =>
    obtain ⟨hb, hids⟩ := List.nodup_cons.mp hids
    rcases ih hids ha with h | ⟨hmem, t, ht, hd, hc⟩
    · rcases queueOne_ids h with h | ⟨rfl, h⟩
      · exact .inl h
      · exact .inr ⟨List.mem_cons_self, h⟩
    · -- The turns before its own leave the address alone.
      obtain ⟨hfind, hds⟩ := queueOne_of_ne now acc (b := a) (a := b) fun h => hb (h ▸ hmem)
      rw [hfind] at ht
      rw [hds] at hc
      exact .inr ⟨List.mem_cons_of_mem b hmem, t, ht, hd, hc⟩

lemma queue_ids {ids : List ℕ} (ha : a ∈ (queueWebhookDeliveriesInTx now ids db).1)
    (ht : db.addressTotals.find? a = some t) :
    t.dirtyState = .dirty ∧ t.content ≠ baseline t (db.deliveriesOf a) := by
  rcases foldl_queueOne_ids (nodup_idSet ids) ha with h | ⟨-, t', ht', hd, hc⟩
  · simp at h
  · rw [show db.addressTotals.find? a = some t' from ht'] at ht
    cases ht
    exact ⟨hd, hc⟩

/-! ### What brings the current content -/

/-- An outstanding delivery, newer than the acknowledged one, brings the current content. -/
def OnItsWay (t : AddressTotals) (ds : List WebhookDelivery) : Prop :=
  ∃ d ∈ ds, d.deliveryState.outstanding = true ∧
    (ackedDeliveryId t ds).getD 0 < d.deliveryId ∧ d.content = t.content

/-- A delivery that a newer outstanding one follows has, by chance, the current content: the total
has gone away and come back while both wait. -/
def SameContentEarlier (t : AddressTotals) (ds : List WebhookDelivery) : Prop :=
  ∃ d ∈ ds, ∃ d', outstanding t ds = some d' ∧ d.deliveryState.outstanding = true ∧
    (ackedDeliveryId t ds).getD 0 < d.deliveryId ∧ d.deliveryId < d'.deliveryId ∧
    d.content = t.content

/-- The queue finds a content to report, but the event id of the version is taken already, and no
earlier delivery happens to have that content. -/
def Taken (t : AddressTotals) (ds : List WebhookDelivery) : Prop :=
  t.dirtyState = .dirty ∧ t.content ≠ baseline t ds ∧
    (∃ d ∈ ds, d.eventId = ⟨t.addressId, t.stateVersion⟩) ∧ ¬SameContentEarlier t ds

/-- What the newest outstanding delivery does not report, only an earlier one can bring. -/
lemma onItsWay_iff_sameContentEarlier (hinj : ∀ d ∈ ds, ∀ d' ∈ ds,
    d.deliveryId = d'.deliveryId → d = d') (hb : t.content ≠ baseline t ds) :
    OnItsWay t ds ↔ SameContentEarlier t ds := by
  constructor
  · rintro ⟨d, hd, hout, hlt, hc⟩
    have hmem : d ∈ ds.filter fun d =>
        d.deliveryState.outstanding && (ackedDeliveryId t ds).getD 0 < d.deliveryId := by
      simp [hd, hout, hlt]
    rcases ho : outstanding t ds with _ | d'
    · rw [outstanding, newest_eq_none] at ho
      rw [ho] at hmem
      cases hmem
    · obtain ⟨hmem', hmax⟩ := newest_mem ho
      refine ⟨d, hd, d', ho, hout, hlt, lt_of_le_of_ne (hmax d hmem) fun heq => ?_, hc⟩
      obtain rfl := hinj d hd d' (List.mem_of_mem_filter hmem') heq
      refine hb ?_
      rw [baseline, ho]
      exact hc.symm
  · rintro ⟨d, hd, _, _, hout, hlt, _, hc⟩
    exact ⟨d, hd, hout, hlt, hc⟩

lemma onItsWay_of_baseline (hb : t.content = baseline t ds) (ho : outstanding t ds ≠ none) :
    OnItsWay t ds := by
  obtain ⟨d, hd⟩ := Option.ne_none_iff_exists'.mp ho
  have hmem := (newest_mem hd).1
  simp only [List.mem_filter, Bool.and_eq_true, decide_eq_true_eq] at hmem
  refine ⟨d, hmem.1, hmem.2.1, hmem.2.2, ?_⟩
  rw [hb, baseline, hd]
  rfl

lemma onItsWay_of_queued (h : RightUpToArray t ds) {i : ℕ} (address : String)
    (hi : 0 < i ∧ ∀ d ∈ ds, d.deliveryId < i) :
    OnItsWay (requeued now t) (ds ++ [queuedDelivery i address t now]) := by
  obtain ⟨array, h⟩ := h
  refine ⟨queuedDelivery i address t now, by simp, rfl, ?_, rfl⟩
  have hacked : ackedDeliveryId (requeued now t) (ds ++ [queuedDelivery i address t now])
      = ackedDeliveryId (t.withArray array) ds := h.ackedDeliveryId_append _
  rw [hacked]
  rcases hk : ackedDeliveryId (t.withArray array) ds with _ | k
  · exact hi.1
  · obtain ⟨d, hd, rfl, -⟩ := h.acked_of_id hk
    exact hi.2 d hd

/-- **What the queue promises**, case by case. -/
lemma QueueOutcome.onItsWay_iff {returned : Prop} (h : RightUpToArray t ds)
    (ho : QueueOutcome now t ds t' ds')
    (hr : returned → t.dirtyState = .dirty ∧ t.content ≠ baseline t ds) :
    (t.dirtyState = .dirty ∧ t'.dirtyState = .queuedForWebhook ∨ returned → OnItsWay t' ds') ↔
      ¬Taken t ds := by
  cases ho with
  | skipped hd =>
    refine iff_of_true (fun hq => absurd ?_ hd) fun ht => hd ht.1
    rcases hq with hq | hq
    · exact hq.1
    · exact (hr hq).1
  | cleaned hd hb ho =>
    refine iff_of_true (fun hq => ?_) fun ht => ht.2.1 hb
    rcases hq with hq | hq
    · cases hq.2
    · exact absurd hb (hr hq).2
  | waiting hd hb ho =>
    exact iff_of_true (fun _ => show OnItsWay t ds from onItsWay_of_baseline hb ho)
      fun ht => ht.2.1 hb
  | queued hd hb i address hi hn =>
    refine iff_of_true (fun _ => onItsWay_of_queued h address hi) fun ht => ?_
    obtain ⟨d, hd', he⟩ := ht.2.2.1
    exact hn d hd' he
  | ignored hd hb d hmem he =>
    have hway : OnItsWay (requeued now t) ds ↔ OnItsWay t ds := Iff.rfl
    obtain ⟨array, hright⟩ := h
    rw [hway, onItsWay_iff_sameContentEarlier hright.inj hb]
    constructor
    · intro hq ht
      exact ht.2.2.2 (hq (.inl ⟨hd, rfl⟩))
    · intro ht _
      by_contra hnot
      exact ht ⟨hd, hb, ⟨d, hmem, he⟩, hnot⟩

/-- Without a rebuild, the id of a version is taken only by a delivery that failed for good. -/
lemma failed_of_taken (h : OutboxRight t ds) (ht : Taken t ds) :
    ∃ d ∈ ds, d.eventId = ⟨t.addressId, t.stateVersion⟩ ∧
      d.deliveryState = .permanentFailure := by
  obtain ⟨-, hb, ⟨d, hd, he⟩, -⟩ := ht
  obtain ⟨hnew, hc⟩ := h.newest_of_current hd he
  refine ⟨d, hd, he, ?_⟩
  by_contra hf
  exact hb (hc.symm.trans (h.baseline_of_newest hnew hf).symm)

/-- Steady events keep the outbox right and let no delivery fail for good. -/
lemma steady_run {es : List Event} (hes : ∀ e ∈ es, e.steady = true) (h : SystemRight s)
    (ha : AllSettled s) (hr : System.runEvents cutoffOf finality es s = some s') :
    SystemRight s' ∧ AllSettled s' := by
  induction es generalizing s with
  | nil =>
    cases hr
    exact ⟨h, ha⟩
  | cons e es ih =>
    rw [System.runEvents] at hr
    obtain ⟨s₁, he, hr'⟩ := Option.bind_eq_some_iff.mp hr
    cases e with
    | act action =>
      have hfail : action.isPermanentFailure = false := by
        simpa [Event.steady] using hes _ List.mem_cons_self
      have hs := System.step_spec h.toSystemKept he
      rw [hfail] at hs
      exact ih (fun e he => hes e (List.mem_cons_of_mem _ he)) (hs.right h) (ha.step h hs) hr'
    | applyRequiredConfirmations required =>
      exact absurd (hes _ List.mem_cons_self) (by simp [Event.steady])

/-- In the database of a call of the queue, too, nothing has failed. -/
lemma not_taken_of_settled {act : Action} {ids : List ℕ} (h : SystemRight s) (ha : AllSettled s)
    (hcall : s.queueCall act = some (db, ids)) (ht : db.addressTotals.find? a = some t) :
    ¬Taken t (db.deliveriesOf a) := by
  intro htaken
  obtain ⟨hright, hno⟩ := queueCall_noFailures h ha hcall ht
  obtain ⟨d, hd, -, hfail⟩ := failed_of_taken hright htaken
  exact hno d hd hfail

/-- **Queued means on its way.** In every reachable state and for every call of the queue: a call
that queues an address leaves an outstanding delivery of exactly its current content, newer than
the acknowledged one, unless the event id of the version is taken by a delivery that does not
bring that content. In a run without a permanent failure and without a rebuild it never is. -/
theorem queued_means_on_its_way_iff
    (cutoffOf : Timestamp → Except AppError Timestamp) (finality : ℕ) (config : Config)
    (createdAt : Timestamp) (requests : List NewAddress) (es : List Event) (s : System)
    (hrun : System.runEvents cutoffOf finality es (startSystem config createdAt requests) =
      some s) :
    ∀ act db ids, s.queueCall act = some (db, ids) → ∀ now, ∀ a ∈ ids, ∀ t,
      db.addressTotals.find? a = some t →
      ∃ t', (queueWebhookDeliveriesInTx now ids db).2.addressTotals.find? a = some t' ∧
        ((t.dirtyState = .dirty ∧ t'.dirtyState = .queuedForWebhook ∨
            a ∈ (queueWebhookDeliveriesInTx now ids db).1 →
          OnItsWay t' ((queueWebhookDeliveriesInTx now ids db).2.deliveriesOf a)) ↔
        ¬Taken t (db.deliveriesOf a)) ∧
        ((∀ e ∈ es, e.steady = true) → ¬Taken t (db.deliveriesOf a)) := by
  obtain ⟨hstart, hsettled, -⟩ := startSystem_right config createdAt requests
  have hup : SystemUpToArray s := SystemUpToArray.run
    ⟨hstart.toSystemKept, fun a t ht => (hstart.right a t ht).upToArray⟩ hrun
  intro act db ids hcall now a ha t ht
  obtain ⟨hk, hev, hr, -⟩ := queueCall_rows hup.toSystemKept hup.right RightUpToArray.map
    RightUpToArray.acknowledge hcall
  obtain ⟨t', ht', ⟨hna, -⟩ | ⟨-, ho⟩⟩ := queue_step now ids hk hev ht
  · exact absurd ha hna
  · refine ⟨t', ht', ho.onItsWay_iff (hr a t ht) fun hq => queue_ids hq ht, fun hes => ?_⟩
    obtain ⟨hright, hall⟩ := steady_run hes hstart hsettled hrun
    exact not_taken_of_settled hright hall hcall ht

/-- A receipt is reported, and the setting changes before the queue is asked again. -/
def rebuiltBeforeQueue : List Event :=
  [.act (.ledger "t1" (.applyAttributedReceipts [minedReceipt 1 "aa" 5 8 3 true] 10)),
    .applyRequiredConfirmations (some 2)]

theorem queued_means_on_its_way_after_a_rebuild :
    ∃ s t t', System.runEvents .ok 2 rebuiltBeforeQueue
        (startSystem testConfig "t0" [testAddress]) = some s ∧
      s.db.addressTotals.find? 1 = some t ∧
      (queueWebhookDeliveriesInTx "t2" [1] s.db).2.addressTotals.find? 1 = some t' ∧
      t'.dirtyState = .queuedForWebhook ∧
      OnItsWay t' ((queueWebhookDeliveriesInTx "t2" [1] s.db).2.deliveriesOf 1) := by
  have hrun : ((System.runEvents .ok 2 rebuiltBeforeQueue
      (startSystem testConfig "t0" [testAddress])).any fun s =>
        (s.db.addressTotals.find? 1).any (fun t => t.dirtyState = .dirty) &&
          (s.db.deliveriesOf 1).isEmpty &&
          ((queueWebhookDeliveriesInTx "t2" [1] s.db).2.addressTotals.find? 1).any
            (fun t' => t'.dirtyState = .queuedForWebhook)) = true := by decide +kernel
  obtain ⟨s, hs, hall⟩ := (Option.any_eq_true _ _).mp hrun
  simp only [Bool.and_eq_true, List.isEmpty_iff] at hall
  obtain ⟨⟨hdirty, hnil⟩, hqueued⟩ := hall
  obtain ⟨t, ht, hd⟩ := (Option.any_eq_true _ _).mp hdirty
  obtain ⟨t', ht', hq⟩ := (Option.any_eq_true _ _).mp hqueued
  obtain ⟨t₁, ht₁, hiff, -⟩ := queued_means_on_its_way_iff .ok 2 testConfig "t0" [testAddress]
    rebuiltBeforeQueue s hs (.queue "t2" [1]) s.db [1] rfl "t2" 1 (by simp) t ht
  rw [ht'] at ht₁
  cases ht₁
  have hq' := of_decide_eq_true hq
  refine ⟨s, t, t', hs, ht, ht', hq', hiff.mpr ?_ (.inl ⟨of_decide_eq_true hd, hq'⟩)⟩
  rintro ⟨-, -, ⟨d, hmem, -⟩, -⟩
  rw [hnil] at hmem
  cases hmem

/-- A delivery waits for its retry while the one of a later change fails for good. Then it is
claimed again. -/
def laterChangeFailed : List Event :=
  [.act (.ledger "t1" (.applyAttributedReceipts [minedReceipt 1 "aa" 5 8 3 true] 10)),
    .act (.queue "t2" [1]), .act (.claim "t3"), .act (.retry (testAttempt 1) "t7"),
    .act (.ledger "t4" (.applyAttributedReceipts [minedReceipt 1 "bb" 5 9 2 true] 10)),
    .act (.queue "t5" [1]), .act (.claim "t6"), .act (.permanentFailure (testAttempt 2)),
    .act (.claim "t8"), .act (.process 1)]

/-- Every address one call of the queue queues has an outstanding delivery of its content. -/
def queuedIsOnItsWay (s : System) (act : Action) (now : Timestamp) : Bool :=
  (s.queueCall act).all fun call => call.2.all fun a =>
    let out := queueWebhookDeliveriesInTx now call.2 call.1
    (call.1.addressTotals.find? a).all fun t => (out.2.addressTotals.find? a).all fun t' =>
      !(t.dirtyState = .dirty && t'.dirtyState = .queuedForWebhook || out.1.contains a) ||
        (out.2.deliveriesOf a).any fun d => d.deliveryState.outstanding &&
          (ackedDeliveryId t' (out.2.deliveriesOf a)).getD 0 < d.deliveryId &&
          d.content = t'.content

/-- The success of the older delivery queues the address, and nothing is outstanding. -/
theorem queued_with_nothing_on_its_way :
    ¬∀ s, System.runEvents .ok 2 laterChangeFailed (startSystem testConfig "t0" [testAddress]) =
      some s → queuedIsOnItsWay s (.success "t9" (testAttempt 1)) "t9" = true := by
  intro h
  have hrun : ((System.runEvents .ok 2 laterChangeFailed
      (startSystem testConfig "t0" [testAddress])).any fun s =>
        !queuedIsOnItsWay s (.success "t9" (testAttempt 1)) "t9") = true := by decide +kernel
  obtain ⟨s, hs, hnot⟩ := (Option.any_eq_true _ _).mp hrun
  rw [h s hs] at hnot
  cases hnot

end ZcashPayment

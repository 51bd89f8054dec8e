import ZcashPayment.Convergence

/-!
Deliveries that fail for good.

A permanent failure is not an outstanding delivery any more, and it acknowledges nothing, so
the queue compares the current content with an older one, although the receiver may have
applied the event that failed. If the content has gone back to that older one, the address is
left without a new event. This is the only way the queue leaves an address whose newest
delivery reports something else. Where nothing is pending, a receiver has that newest delivery
exactly if it applied its event: an attempt may also have failed before the receiver took it.
-/

namespace ZcashPayment

variable {cutoffOf : Timestamp → Except AppError Timestamp} {finality : ℕ}
  {s s' : System} {act : Action} {acts : List Action} {a : ℕ} {t t' : AddressTotals}
  {ds ds' : List WebhookDelivery}

/-- The deliveries that were attempted or are still outstanding. -/
def attemptedOrOutstanding (posted : List ℕ) (ds : List WebhookDelivery) :
    List WebhookDelivery :=
  ds.filter fun d => d.deliveryId ∈ posted || d.deliveryState.outstanding

/-- The newest delivery that was attempted or is outstanding reports the current content, or
there is none. -/
def newestReports (posted : List ℕ) (t : AddressTotals) (ds : List WebhookDelivery) : Bool :=
  (newest (attemptedOrOutstanding posted ds)).all fun d => d.content = t.content

/-- The newest delivery has failed for good with a content that is not the current one, and
the current content is the one the queue compares with. -/
def Masked (t : AddressTotals) (ds : List WebhookDelivery) : Prop :=
  ∃ d, newest ds = some d ∧ d.deliveryState = .permanentFailure ∧ d.content ≠ t.content ∧
    t.content = baseline t ds

/-- The newest delivery reports the current content. -/
def Reported (t : AddressTotals) (ds : List WebhookDelivery) : Prop :=
  ∀ d, newest ds = some d → d.content = t.content

/-- Every delivery was attempted or is outstanding: what is not waiting for its first attempt
was posted. -/
lemma attemptedOrOutstanding_eq {posted : List ℕ}
    (h : ∀ d ∈ ds, d.deliveryState ≠ .queued → d.deliveryId ∈ posted) :
    attemptedOrOutstanding posted ds = ds := by
  refine List.filter_eq_self.mpr fun d hd => ?_
  by_cases hq : d.deliveryState = .queued
  · simp [hq, DeliveryState.outstanding]
  · simp [h d hd hq]

lemma newestReports_iff {posted : List ℕ}
    (h : ∀ d ∈ ds, d.deliveryState ≠ .queued → d.deliveryId ∈ posted) :
    newestReports posted t ds = true ↔ Reported t ds := by
  unfold newestReports Reported
  rw [attemptedOrOutstanding_eq h]
  simp [Option.all_eq_true]

/-- A content the queue takes for reported is reported, unless a failure masks it. -/
lemma reported_of_baseline (h : OutboxRight t ds) (hb : t.content = baseline t ds)
    (hm : ¬Masked t ds) : Reported t ds := by
  intro d hd
  by_cases hf : d.deliveryState = .permanentFailure
  · by_contra hne
    exact hm ⟨d, hd, hf, hne, hb⟩
  · exact (h.baseline_of_newest hd hf).symm.trans hb.symm

/-- **What the queue leaves unreported**, case by case. -/
lemma QueueOutcome.reported {now : Timestamp} (h : OutboxRight t ds)
    (ho : QueueOutcome now t ds t' ds') (hd : t.dirtyState = .dirty) (hm : ¬Masked t ds) :
    Reported t' ds' := by
  cases ho with
  | skipped hnd => exact absurd hd hnd
  | cleaned _ hb | waiting _ hb => exact show Reported t ds from reported_of_baseline h hb hm
  | queued _ _ i address hi hn =>
    intro d hd
    have hnew : newest (ds ++ [queuedDelivery i address t now]) =
        some (queuedDelivery i address t now) := by
      refine newest_eq_some (h.append address hi hn).inj (by simp) fun d' hd' => ?_
      rcases List.mem_append.mp hd' with hd' | hd'
      · exact (hi.2 d' hd').le
      · rw [List.mem_singleton.mp hd']
    rw [hnew] at hd
    cases hd
    rfl
  | ignored _ _ d hmem he =>
    intro d' hd'
    obtain ⟨hnew, hc⟩ := h.newest_of_current hmem he
    rw [hnew] at hd'
    cases hd'
    exact hc

lemma QueueOutcome.reported_iff {now : Timestamp} (h : OutboxRight t ds)
    (ho : QueueOutcome now t ds t' ds') (hd : t.dirtyState = .dirty) :
    (t'.dirtyState ≠ .dirty → ds' = ds → Reported t' ds') ↔ ¬Masked t ds := by
  refine ⟨fun hrep hm => ?_, fun hm _ _ => ho.reported h hd hm⟩
  obtain ⟨d, hnew, -, hne, hb⟩ := hm
  cases ho with
  | skipped hnd => exact hnd hd
  | cleaned => exact hne (hrep nofun rfl d hnew)
  | waiting => exact hne (hrep nofun rfl d hnew)
  | queued _ hnb => exact hnb hb
  | ignored _ hnb => exact hnb hb

/-- **Step lemma**: an address that is not dirty stays reported when no call of the queue on it
is masked. -/
lemma AddressStep.reported {mayFail : Bool} {C : Considered} (h : OutboxRight t ds)
    (hr : t.dirtyState ≠ .dirty → Reported t ds)
    (hm : ∀ t ds, C t ds → t.dirtyState = .dirty → ¬Masked t ds)
    (hstep : AddressStep mayFail C t ds t' ds') : t'.dirtyState ≠ .dirty → Reported t' ds' := by
  have hmap : ∀ f, SameEvents f → (t.dirtyState ≠ .dirty → Reported t (ds.map f)) := by
    intro f hf hnd d hd
    rw [newest_map hf.id] at hd
    obtain ⟨b, hb, rfl⟩ := Option.map_eq_some_iff.mp hd
    rw [hf.content, hr hnd b hb]
  cases hstep with
  | retotaled hs hv hd =>
    intro hnd d hnew
    rcases hd with ⟨hc, hd⟩ | hd
    · rw [hc]
      exact hr (hd ▸ hnd) d hnew
    · exact absurd hd hnd
  | queue hc ho =>
    intro hnd
    by_cases hd : t.dirtyState = .dirty
    · exact ho.reported h hd (hm _ _ hc hd)
    · cases ho with
      | skipped => exact hr hd
      | cleaned hd' | waiting hd' | queued hd' | ignored hd' => exact absurd hd' hd
  | moved hf => exact hmap _ hf
  | lateSuccess d hf => exact hmap _ hf
  | acknowledged d attemptedAt hf hle hd hsucc hother hc ho =>
    intro _
    exact ho.reported (h.acknowledge hd hle hf hsucc hother attemptedAt).1 rfl (hm _ _ hc rfl)

/-- An address without a delivery is as it started. -/
def UnsentInitial (t : AddressTotals) (ds : List WebhookDelivery) : Prop :=
  ds = [] → t.content = initialContent

lemma QueueOutcome.unsentInitial {now : Timestamp} (h : OutboxRight t ds)
    (ho : QueueOutcome now t ds t' ds') (hd : t.dirtyState = .dirty) : UnsentInitial t' ds' := by
  have hbase : t.content = baseline t ds → UnsentInitial t ds := by
    rintro hb rfl
    exact hb.trans h.baseline_of_nil
  cases ho with
  | skipped hnd => exact absurd hd hnd
  | cleaned _ hb => exact hbase hb
  | waiting _ hb => exact hbase hb
  | queued => exact fun hnil => absurd hnil (by simp)
  | ignored _ _ d hmem => exact fun hnil => absurd hnil (List.ne_nil_of_mem hmem)

/-- **Step lemma**: the queue lets no change of an address pass without a first delivery. -/
lemma AddressStep.unsentInitial {mayFail : Bool} {C : Considered} (h : OutboxRight t ds)
    (hu : t.dirtyState ≠ .dirty → UnsentInitial t ds)
    (hstep : AddressStep mayFail C t ds t' ds') :
    t'.dirtyState ≠ .dirty → UnsentInitial t' ds' := by
  have hmap : ∀ f : WebhookDelivery → WebhookDelivery,
      t.dirtyState ≠ .dirty → UnsentInitial t (ds.map f) :=
    fun f hnd hnil => hu hnd (List.map_eq_nil_iff.mp hnil)
  cases hstep with
  | retotaled hs hv hd =>
    intro hnd hnil
    rcases hd with ⟨hc, hd⟩ | hd
    · rw [hc]
      exact hu (hd ▸ hnd) hnil
    · exact absurd hd hnd
  | queue hc ho =>
    intro hnd
    by_cases hd : t.dirtyState = .dirty
    · exact ho.unsentInitial h hd
    · cases ho with
      | skipped => exact hu hd
      | cleaned hd' | waiting hd' | queued hd' | ignored hd' => exact absurd hd' hd
  | moved hf => exact hmap _
  | lateSuccess d hf => exact hmap _
  | acknowledged d attemptedAt hf hle hd hsucc hother hc ho =>
    intro _
    exact ho.unsentInitial (h.acknowledge hd hle hf hsucc hother attemptedAt).1 rfl

/-! ### Calls of the queue in reachable states -/

/-- No call of the queue this action makes is on a dirty address with a masked failure. -/
def Unmasked (s : System) (act : Action) : Prop :=
  ∀ t ds, Calls (s.queueCall act) t ds → t.dirtyState = .dirty → ¬Masked t ds

/-- Every action of the run is like that, in the state it is taken in. -/
def RunUnmasked (cutoffOf : Timestamp → Except AppError Timestamp) (finality : ℕ) :
    List Action → System → Prop
  | [], _ => True
  | act :: acts, s => Unmasked s act ∧
    ∀ s', s.step cutoffOf finality act = some s' → RunUnmasked cutoffOf finality acts s'

def AllReported (s : System) : Prop :=
  ∀ a t, s.db.addressTotals.find? a = some t → t.dirtyState ≠ .dirty →
    Reported t (s.db.deliveriesOf a)

def AllUnsentInitial (s : System) : Prop :=
  ∀ a t, s.db.addressTotals.find? a = some t → t.dirtyState ≠ .dirty →
    UnsentInitial t (s.db.deliveriesOf a)

lemma AllUnsentInitial.run (h : SystemRight s) (hu : AllUnsentInitial s)
    (hrun : System.run cutoffOf finality acts s = some s') : AllUnsentInitial s' := by
  induction acts generalizing s with
  | nil =>
    cases hrun
    exact hu
  | cons act acts ih =>
    obtain ⟨s₁, hstep, hrun⟩ := System.run_cons hrun
    have hs := System.step_spec h.toSystemKept hstep
    refine ih (hs.right h) (fun a t' ht' => ?_) hrun
    obtain ⟨t, ht, hstep'⟩ := hs.address_of h.toSystemKept ht'
    exact hstep'.unsentInitial (h.right a t ht) (hu a t ht)

lemma AllReported.run (h : SystemRight s) (hr : AllReported s)
    (hu : RunUnmasked cutoffOf finality acts s)
    (hrun : System.run cutoffOf finality acts s = some s') : AllReported s' := by
  induction acts generalizing s with
  | nil =>
    cases hrun
    exact hr
  | cons act acts ih =>
    obtain ⟨s₁, hstep, hrun⟩ := System.run_cons hrun
    have hs := System.step_spec h.toSystemKept hstep
    refine ih (hs.right h) (fun a t' ht' => ?_) (hu.2 s₁ hstep) hrun
    obtain ⟨t, ht, hstep'⟩ := hs.address_of h.toSystemKept ht'
    exact hstep'.reported (h.right a t ht) (hr a t ht) hu.1

/-- The database of every call of the queue is as right as the state it is made in: what the
addresses have in the state they have there, if an acknowledgment keeps it. -/
lemma queueCall_rows {R : AddressTotals → List WebhookDelivery → Prop} {db : Db} {ids : List ℕ}
    (h : SystemKept s)
    (hR : ∀ a t, s.db.addressTotals.find? a = some t → R t (s.db.deliveriesOf a))
    (hmap : ∀ {t ds f}, R t ds → SameEvents f →
      (∀ d ∈ ds, (f d).deliveryState = d.deliveryState) → R t (ds.map f))
    (hack : ∀ {t ds d f} attemptedAt, R t ds → d ∈ ds →
      (∀ i, ackedDeliveryId t ds = some i → i ≤ d.deliveryId) → SameEvents f →
      (f d).deliveryState = .succeeded →
      (∀ b ∈ ds, b.deliveryId ≠ d.deliveryId → (f b).deliveryState = b.deliveryState) →
      R (acknowledgedBy d attemptedAt t) (ds.map f))
    (hcall : s.queueCall act = some (db, ids)) :
    db.TotalsKept ∧ EventsNamed db ∧
      (∀ a t, db.addressTotals.find? a = some t → R t (db.deliveriesOf a)) ∧
      ∀ d ∈ db.webhookDeliveries.rows, d.deliveryState ≠ .queued → d.deliveryId ∈ s.posted := by
  cases act with
  | queue now ids =>
    cases hcall
    exact ⟨h.kept, h.events, hR, h.posted⟩
  | queueAllDirty now =>
    cases hcall
    exact ⟨h.kept, h.events, hR, h.posted⟩
  | success now outcome =>
    obtain ⟨d, hs, hcall⟩ := Option.bind_eq_some_iff.mp hcall
    split_ifs at hcall with hlate
    cases hcall
    obtain ⟨hfind, hst⟩ := sending_spec hs
    have hmem := Table.mem_of_find? hfind
    refine ⟨kept_acknowledge h.kept d outcome, events_acknowledge h.events d outcome,
      fun a t ht => ?_, fun b hb hq => ?_⟩
    · rw [find?_acknowledge] at ht
      obtain ⟨t₀, ht₀, rfl⟩ := Option.map_eq_some_iff.mp ht
      rw [deliveriesOf_acknowledge]
      split_ifs with ha
      · subst ha
        refine hack _ (hR _ t₀ ht₀) (mem_deliveriesOf.mpr ⟨hmem, rfl⟩) (fun i hi => ?_)
          (sameEvents_succeededRow outcome) (succeededRow_state hs).1
          fun b hb => (succeededRow_state hs).2 b (mem_deliveriesOf.mp hb).1
        rw [ackedIsNewer_eq s.db d outcome ht₀, hi] at hlate
        simpa using hlate
      · refine hmap (hR a t₀ ht₀) (sameEvents_succeededRow outcome) fun b hb => ?_
        obtain ⟨hmem', hba⟩ := mem_deliveriesOf.mp hb
        refine (succeededRow_state hs).2 b hmem' fun heq => ha ?_
        rw [← hba, eq_of_sending hs hmem' (heq.trans (Table.key_of_find? hfind))]
    · rw [Db.acknowledge] at hb
      obtain ⟨c, hc, rfl⟩ := List.mem_map.mp
        (show _ ∈ (s.db.webhookDeliveries.rows.map (succeededRow outcome)) by
          rw [← rows_succeeded]; exact hb)
      rw [(sameEvents_succeededRow outcome).id]
      by_cases heq : c.deliveryId = d.deliveryId
      · rw [heq]
        exact sending_posted h hs
      · rw [(succeededRow_state hs).2 c hc heq] at hq
        exact h.posted c hc hq
  | ledger | recover | claim | process | retry | permanentFailure => cases hcall

lemma queueCall_right {db : Db} {ids : List ℕ} (h : SystemRight s)
    (hcall : s.queueCall act = some (db, ids)) :
    db.TotalsKept ∧ EventsNamed db ∧
      (∀ a t, db.addressTotals.find? a = some t → OutboxRight t (db.deliveriesOf a)) ∧
      ∀ d ∈ db.webhookDeliveries.rows, d.deliveryState ≠ .queued → d.deliveryId ∈ s.posted :=
  queueCall_rows h.toSystemKept h.right
    (fun hr hf hst => hr.map hf (fun d hd hs => (hst d hd).trans hs)
      fun d hd hs => Or.inl ((hst d hd).symm.trans hs))
    (fun attemptedAt hr hd hle hf hsucc hother =>
      (hr.acknowledge hd hle hf hsucc hother attemptedAt).1) hcall

/-- Until a delivery fails for good, nothing has failed in the database of a call either. -/
lemma queueCall_noFailures {db : Db} {ids : List ℕ} (h : SystemRight s) (ha : AllSettled s)
    (hcall : s.queueCall act = some (db, ids)) (ht : db.addressTotals.find? a = some t) :
    OutboxRight t (db.deliveriesOf a) ∧ NoFailures (db.deliveriesOf a) := by
  obtain ⟨-, -, hr, -⟩ := queueCall_rows (R := fun t ds => OutboxRight t ds ∧ NoFailures ds)
    h.toSystemKept (fun a t ht => ⟨h.right a t ht, (ha a t ht).2⟩)
    (fun hr hf hst => ⟨hr.1.map hf (fun d hd hs => (hst d hd).trans hs)
      fun d hd hs => Or.inl ((hst d hd).symm.trans hs), hr.2.map fun d hd => Or.inl (hst d hd)⟩)
    (fun attemptedAt hr hd hle hf hsucc hother =>
      ⟨(hr.1.acknowledge hd hle hf hsucc hother attemptedAt).1,
        hr.2.success hr.1.inj hd hsucc hother⟩) hcall
  exact hr a t ht

/-- Until a delivery fails for good, no failure masks a change. -/
lemma runUnmasked_of_noFailures (h : SystemRight s) (ha : AllSettled s)
    (hf : ∀ act ∈ acts, act.isPermanentFailure = false) :
    RunUnmasked cutoffOf finality acts s := by
  induction acts generalizing s with
  | nil => trivial
  | cons act acts ih =>
    refine ⟨?_, fun s' hstep => ?_⟩
    · rintro t _ ⟨db, ids, hcall, -, ht, rfl⟩ - ⟨d, hnew, hfail, -⟩
      exact (queueCall_noFailures h ha hcall ht).2 d (newest_mem hnew).1 hfail
    · have hs := System.step_spec h.toSystemKept hstep
      rw [hf act List.mem_cons_self] at hs
      exact ih (hs.right h) (ha.step h hs) fun b hb => hf b (List.mem_cons_of_mem act hb)

lemma RunUnmasked.append {acts' : List Action} (h : RunUnmasked cutoffOf finality acts s)
    (h' : ∀ s', System.run cutoffOf finality acts s = some s' →
      RunUnmasked cutoffOf finality acts' s') :
    RunUnmasked cutoffOf finality (acts ++ acts') s := by
  induction acts generalizing s with
  | nil => exact h' s rfl
  | cons act acts ih =>
    refine ⟨h.1, fun s₁ hstep => ih (h.2 s₁ hstep) fun s' hrun => h' s' ?_⟩
    rw [System.run, hstep]
    exact hrun

/-! ### What the receiver is left on -/

/-- The newest delivery that was attempted or is outstanding. -/
def newestSent (s : System) (a : ℕ) : Option WebhookDelivery :=
  newest (attemptedOrOutstanding s.posted (s.db.deliveriesOf a))

/-- The receiver applied the event of the newest delivery, if there is one. -/
def NewestApplied (s : System) (a : ℕ) : Prop :=
  ∀ d, newestSent s a = some d → (d.eventId, d.content) ∈ s.log

/-- The newest delivery failed for good, and the receiver did not apply its event. -/
def NewestLost (s : System) (a : ℕ) : Prop :=
  ∃ d, newestSent s a = some d ∧ d.deliveryState = .permanentFailure ∧
    (d.eventId, d.content) ∉ s.log

/-- A receiver that keeps the highest version is on the current content. One that was told
nothing is on the content addresses start with. -/
def LeftOnCurrent (s : System) (a : ℕ) (t : AddressTotals) : Prop :=
  ((received s.log a).map Prod.snd).getD initialContent = t.content

lemma newestSent_eq (h : SystemKept s) (a : ℕ) :
    newestSent s a = newest (s.db.deliveriesOf a) := by
  unfold newestSent
  rw [attemptedOrOutstanding_eq fun d hmem => h.posted d (mem_deliveriesOf.mp hmem).1]

/-- What the receiver applied for an address are contents of its deliveries. -/
lemma SystemKept.logged_delivery {e : EventId × Content} (h : SystemKept s) (he : e ∈ s.log)
    (ha : e.1.addressId = a) :
    ∃ d ∈ s.db.deliveriesOf a, d.eventId = e.1 ∧ d.content = e.2 := by
  obtain ⟨d, hmem, hde, hdc⟩ := h.logged e he
  exact ⟨d, mem_deliveriesOf.mpr ⟨hmem, by rw [← h.events d hmem, hde, ha]⟩, hde, hdc⟩

/-- **What the receiver holds of a reported address**: the current content under the version of
the newest delivery exactly if it applied that delivery, and nothing where there is none. -/
lemma received_eq_iff_newestApplied (h : SystemRight s)
    (ht : s.db.addressTotals.find? a = some t) (hr : Reported t (s.db.deliveriesOf a)) :
    received s.log a = (newestSent s a).map (fun d => (d.eventId.stateVersion, t.content)) ↔
      NewestApplied s a := by
  have hright := h.right a t ht
  unfold NewestApplied
  rw [newestSent_eq h.toSystemKept]
  rcases received_spec s.log a with ⟨hnone, hother⟩ | ⟨e, he, hea, hsome, hmax⟩
  · rw [hnone]
    rcases hn : newest (s.db.deliveriesOf a) with _ | d
    · simp
    · have hd := (newest_mem hn).1
      refine ⟨nofun, fun happ => absurd ?_ (hother _ (happ d rfl))⟩
      rw [h.events d (mem_deliveriesOf.mp hd).1, (mem_deliveriesOf.mp hd).2]
  · obtain ⟨b, hb, hbe, hbc⟩ := h.toSystemKept.logged_delivery he hea
    rcases hn : newest (s.db.deliveriesOf a) with _ | d
    · rw [newest_eq_none.mp hn] at hb
      cases hb
    obtain ⟨hd, hdmax⟩ := newest_mem hn
    have hda : d.eventId.addressId = a := by
      rw [h.events d (mem_deliveriesOf.mp hd).1, (mem_deliveriesOf.mp hd).2]
    rw [hsome]
    constructor
    · intro heq d' hd'
      cases hd'
      have hv : e.1.stateVersion = d.eventId.stateVersion :=
        congrArg Prod.fst (Option.some.inj heq)
      obtain rfl : b = d := hright.eq_of_version hb hd (by rw [hbe, hv])
      rw [hbe, hbc]
      exact he
    · intro happ
      -- The newest delivery has the highest version, so it is the one the receiver keeps.
      have hle : d.eventId.stateVersion ≤ e.1.stateVersion := hmax _ (happ d rfl) hda
      have hle' := hright.version_le hb hd (hdmax b hb)
      have hv : e.1.stateVersion = d.eventId.stateVersion := by
        rw [hbe] at hle'
        exact le_antisymm hle' hle
      obtain rfl : b = d := hright.eq_of_version hb hd (by rw [hbe, hv])
      rw [Option.map_some, ← hr b hn, hbc, hv]

lemma leftOnCurrent_of_newestApplied (h : SystemRight s)
    (ht : s.db.addressTotals.find? a = some t) (hr : Reported t (s.db.deliveriesOf a))
    (hu : UnsentInitial t (s.db.deliveriesOf a)) (happ : NewestApplied s a) :
    LeftOnCurrent s a t := by
  have hrec := (received_eq_iff_newestApplied h ht hr).mpr happ
  rw [newestSent_eq h.toSystemKept] at hrec
  unfold LeftOnCurrent
  rw [hrec]
  rcases hn : newest (s.db.deliveriesOf a) with _ | d
  · exact (hu (newest_eq_none.mp hn)).symm
  · rfl

/-- With nothing outstanding, a delivery the receiver did not apply has failed for good: a success
was applied. -/
lemma newestLost_of_not_applied (h : SystemKept s)
    (ho : ∀ d ∈ s.db.deliveriesOf a, d.deliveryState.outstanding = false)
    (happ : ¬NewestApplied s a) : NewestLost s a := by
  simp only [NewestApplied, not_forall] at happ
  obtain ⟨d, hn, hnot⟩ := happ
  refine ⟨d, hn, ?_, hnot⟩
  rw [newestSent_eq h] at hn
  have hd := (newest_mem hn).1
  have hout := ho d hd
  have hsucc : d.deliveryState ≠ .succeeded :=
    fun hs => hnot (h.succeeded d (mem_deliveriesOf.mp hd).1 hs)
  cases hst : d.deliveryState <;> simp_all [DeliveryState.outstanding]

/-- **A change after a failed delivery.** In every reachable state and for every call of the
queue on a dirty address: a call that leaves the address not dirty without inserting a row
leaves it reported exactly when no failure of the newest delivery masks the change. Along a
run in which that never happens, every address that is not dirty is reported. The receiver holds
its content under the newest version exactly if it applied the newest delivery; with nothing
pending it is on the current content, unless that delivery failed for good before it was
applied. -/
theorem change_after_failure_reported_iff
    (cutoffOf : Timestamp → Except AppError Timestamp) (finality : ℕ) (config : Config)
    (createdAt : Timestamp) (requests : List NewAddress) (acts : List Action) (s : System)
    (hrun : System.run cutoffOf finality acts (startSystem config createdAt requests) = some s) :
    (∀ act db ids, s.queueCall act = some (db, ids) →
      ∀ now, ∀ a ∈ ids, ∀ t, db.addressTotals.find? a = some t → t.dirtyState = .dirty →
        ∃ t', (queueWebhookDeliveriesInTx now ids db).2.addressTotals.find? a = some t' ∧
          ((t'.dirtyState ≠ .dirty →
              (queueWebhookDeliveriesInTx now ids db).2.deliveriesOf a = db.deliveriesOf a →
              newestReports s.posted t'
                ((queueWebhookDeliveriesInTx now ids db).2.deliveriesOf a) = true) ↔
            ¬Masked t (db.deliveriesOf a))) ∧
    (RunUnmasked cutoffOf finality acts (startSystem config createdAt requests) →
      ∀ a t, s.db.addressTotals.find? a = some t → t.dirtyState ≠ .dirty →
        newestReports s.posted t (s.db.deliveriesOf a) = true ∧
        (received s.log a =
            (newestSent s a).map (fun d => (d.eventId.stateVersion, t.content)) ↔
          NewestApplied s a) ∧
        ((∀ d ∈ s.db.deliveriesOf a, d.deliveryState.outstanding = false) →
          LeftOnCurrent s a t ∨ NewestLost s a)) := by
  obtain ⟨hstart, -, hinit⟩ := startSystem_right config createdAt requests
  have hright := (hstart.run hrun).1
  refine ⟨fun act db ids hcall now a ha t ht hd => ?_, fun hu a t ht hnd => ?_⟩
  · obtain ⟨hk, hev, hr, hposted⟩ := queueCall_right hright hcall
    obtain ⟨t', ht', ⟨hna, -⟩ | ⟨-, ho⟩⟩ := queue_step now ids hk hev ht
    · exact absurd ha hna
    · refine ⟨t', ht', ?_⟩
      rw [← ho.reported_iff (hr a t ht) hd]
      refine forall_congr' fun _ => forall_congr' fun heq => ?_
      rw [heq]
      exact newestReports_iff fun d hmem => hposted d (mem_deliveriesOf.mp hmem).1
  · have hnone : AllReported (startSystem config createdAt requests) := by
      intro b t₀ _ _ d hmem
      have hnil : (startSystem config createdAt requests).db.deliveriesOf b = [] := by
        simp [Db.deliveriesOf, startSystem, (startDb_outbox config createdAt requests).2.1]
      rw [hnil] at hmem
      cases hmem
    have hunsent : AllUnsentInitial (startSystem config createdAt requests) :=
      fun b t₀ ht₀ _ _ => hinit b t₀ ht₀
    have hrep := hnone.run hstart hu hrun a t ht hnd
    refine ⟨(newestReports_iff fun d hmem =>
      hright.posted d (mem_deliveriesOf.mp hmem).1).mpr hrep,
      received_eq_iff_newestApplied hright ht hrep, fun ho => ?_⟩
    by_cases happ : NewestApplied s a
    · exact Or.inl (leftOnCurrent_of_newestApplied hright ht hrep
        (hunsent.run hstart hrun a t ht hnd) happ)
    · exact Or.inr (newestLost_of_not_applied hright.toSystemKept ho happ)

/-- A receipt is reported and acknowledged; its revocation is posted, processed by the
receiver and recorded as a permanent failure; then the receipt comes back. -/
def failedThenBack : List Action :=
  [.ledger "t1" (.applyAttributedReceipts [minedReceipt 1 "aa" 5 8 3 true] 10),
    .queue "t2" [1], .claim "t3", .process 1, .success "t4" (testAttempt 1),
    .ledger "t5" (.revokeMinedReceiptsAboveTip 7), .queue "t6" [1], .claim "t7", .process 2,
    .permanentFailure (testAttempt 2),
    .ledger "t8" (.applyAttributedReceipts [minedReceipt 1 "aa" 5 8 3 true] 10)]

/-- A direct call of the queue on address `a` does not leave it unreported. -/
def leavesReported (s : System) (a : ℕ) (now : Timestamp) : Bool :=
  let db' := (queueWebhookDeliveriesInTx now [a] s.db).2
  (s.db.addressTotals.find? a).all fun t => (db'.addressTotals.find? a).all fun t' =>
    !(t.dirtyState = .dirty && t'.dirtyState ≠ .dirty &&
        db'.deliveriesOf a = s.db.deliveriesOf a) ||
      newestReports s.posted t' (db'.deliveriesOf a)

theorem change_after_failure_unreported :
    ¬∀ s, System.run .ok 2 failedThenBack (startSystem testConfig "t0" [testAddress]) = some s →
      leavesReported s 1 "t9" = true := by
  intro h
  have hrun : ((System.run .ok 2 failedThenBack
      (startSystem testConfig "t0" [testAddress])).any fun s => !leavesReported s 1 "t9") =
        true := by decide
  obtain ⟨s, hs, hnot⟩ := (Option.any_eq_true _ _).mp hrun
  rw [h s hs] at hnot
  cases hnot

/-- A total that goes away and comes back while its event is still queued. -/
def backWhileQueued : List Action :=
  [.ledger "t1" (.applyAttributedReceipts [minedReceipt 1 "aa" 5 8 3 true] 10),
    .queue "t2" [1], .ledger "t3" (.revokeMinedReceiptsAboveTip 7),
    .ledger "t4" (.applyAttributedReceipts [minedReceipt 1 "aa" 5 8 3 true] 10)]

/-- The event of a second receipt is processed by the receiver and recorded as a permanent
failure. -/
def appliedAlthoughFailed : List Action :=
  [.ledger "t1" (.applyAttributedReceipts [minedReceipt 1 "aa" 5 8 3 true] 10),
    .queue "t2" [1], .claim "t3", .process 1, .success "t4" (testAttempt 1),
    .ledger "t5" (.applyAttributedReceipts [minedReceipt 1 "bb" 3 9 2 true] 10),
    .queue "t6" [1], .claim "t7", .process 2]

/-- The queue leaves the first address alone, and its newest delivery reports it. After the
failed delivery of the second run, the receiver is on the current total of 8. -/
theorem change_back_reported_while_queued :
    (∃ s t t', System.run .ok 2 backWhileQueued (startSystem testConfig "t0" [testAddress]) =
        some s ∧ s.db.addressTotals.find? 1 = some t ∧ t.dirtyState = .dirty ∧
      (queueWebhookDeliveriesInTx "t9" [1] s.db).2.addressTotals.find? 1 = some t' ∧
      newestReports s.posted t'
        ((queueWebhookDeliveriesInTx "t9" [1] s.db).2.deliveriesOf 1) = true) ∧
    ∃ s t d, System.run .ok 2 (appliedAlthoughFailed ++ [.permanentFailure (testAttempt 2)])
        (startSystem testConfig "t0" [testAddress]) = some s ∧
      s.db.addressTotals.find? 1 = some t ∧ t.currentTotalZat = 8 ∧ newestSent s 1 = some d ∧
      d.deliveryState = .permanentFailure ∧
      received s.log 1 = some (d.eventId.stateVersion, t.content) := by
  constructor
  · have hrun : ((System.run .ok 2 backWhileQueued
        (startSystem testConfig "t0" [testAddress])).any fun s =>
          (s.db.addressTotals.find? 1).any (fun t => t.dirtyState = .dirty) &&
            (newest (s.db.deliveriesOf 1)).all (fun d => d.deliveryState ≠ .permanentFailure) &&
            ((queueWebhookDeliveriesInTx "t9" [1] s.db).2.addressTotals.find? 1).all
              (fun t' => t'.dirtyState ≠ .dirty) &&
            (queueWebhookDeliveriesInTx "t9" [1] s.db).2.deliveriesOf 1 =
              s.db.deliveriesOf 1) = true := by decide
    obtain ⟨s, hs, hall⟩ := (Option.any_eq_true _ _).mp hrun
    simp only [Bool.and_eq_true, decide_eq_true_eq] at hall
    obtain ⟨⟨⟨hdirty, hnofail⟩, hclean⟩, hsame⟩ := hall
    obtain ⟨t, ht, hd⟩ := (Option.any_eq_true _ _).mp hdirty
    obtain ⟨t', ht', hiff⟩ := (change_after_failure_reported_iff .ok 2 testConfig "t0"
      [testAddress] backWhileQueued s hs).1 (.queue "t9" [1]) s.db [1] rfl "t9" 1 (by simp) t ht
      (of_decide_eq_true hd)
    refine ⟨s, t, t', hs, ht, of_decide_eq_true hd, ht', hiff.mpr ?_ ?_ hsame⟩
    · rintro ⟨d, hnew, hf, -⟩
      rw [hnew] at hnofail
      exact absurd hf (of_decide_eq_true hnofail)
    · rw [ht'] at hclean
      exact of_decide_eq_true hclean
  · have hrun : ((System.run .ok 2
        (appliedAlthoughFailed ++ [.permanentFailure (testAttempt 2)])
        (startSystem testConfig "t0" [testAddress])).any fun s =>
          (s.db.addressTotals.find? 1).any (fun t => t.dirtyState ≠ .dirty &&
            t.currentTotalZat = 8) &&
            (newestSent s 1).any (fun d => d.deliveryState = .permanentFailure &&
              (d.eventId, d.content) ∈ s.log)) = true := by decide
    obtain ⟨s, hs, hall⟩ := (Option.any_eq_true _ _).mp hrun
    simp only [Bool.and_eq_true] at hall
    obtain ⟨t, ht, htotal⟩ := (Option.any_eq_true _ _).mp hall.1
    obtain ⟨d, hd, hfailed⟩ := (Option.any_eq_true _ _).mp hall.2
    simp only [Bool.and_eq_true, decide_eq_true_eq] at htotal hfailed
    obtain ⟨hstart, hsettled, -⟩ := startSystem_right testConfig "t0" [testAddress]
    have hunmasked : RunUnmasked .ok 2
        (appliedAlthoughFailed ++ [.permanentFailure (testAttempt 2)])
        (startSystem testConfig "t0" [testAddress]) := by
      refine (runUnmasked_of_noFailures hstart hsettled ?_).append fun s' _ =>
        ⟨?_, fun _ _ => trivial⟩
      · simp [appliedAlthoughFailed, Action.isPermanentFailure]
      · rintro t _ ⟨db, ids, hcall, -⟩
        cases hcall
    obtain ⟨-, hiff, -⟩ := (change_after_failure_reported_iff .ok 2 testConfig "t0" [testAddress]
      (appliedAlthoughFailed ++ [.permanentFailure (testAttempt 2)]) s hs).2 hunmasked 1 t ht
      htotal.1
    have hreceived := hiff.mpr fun d' hd' => by
      rw [hd] at hd'
      cases hd'
      exact hfailed.2
    rw [hd] at hreceived
    exact ⟨s, t, d, hs, ht, htotal.2, hd, hfailed.1, hreceived⟩

end ZcashPayment

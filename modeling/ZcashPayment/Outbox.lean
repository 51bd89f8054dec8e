import Mathlib.Data.List.Induction
import ZcashPayment.QueueSpec

/-!
The invariant of one address's outbox.

Delivery ids and versions grow together, so the newest delivery is the one with the highest
version, and a delivery of the current version has the current content. The acknowledged
event is the newest success. `Settled` says that the newest content the receiver will see is
the current one; it is what the queue establishes, and only a permanent failure can break it.
-/

namespace ZcashPayment

variable {t t' : AddressTotals} {ds : List WebhookDelivery} {d d' : WebhookDelivery}

/-! ### The newest delivery -/

lemma newest_append (ds : List WebhookDelivery) (d : WebhookDelivery) :
    newest (ds ++ [d]) = newerOf (newest ds) d := by
  unfold newest
  rw [List.foldl_append]
  rfl

lemma newest_spec (ds : List WebhookDelivery) :
    (ds = [] ∧ newest ds = none) ∨
      ∃ d ∈ ds, newest ds = some d ∧ ∀ d' ∈ ds, d'.deliveryId ≤ d.deliveryId := by
  induction ds using List.reverseRecOn with
  | nil => exact Or.inl ⟨rfl, rfl⟩
  | append_singleton ds d ih =>
    right
    rw [newest_append]
    rcases ih with ⟨rfl, hn⟩ | ⟨b, hb, hn, hmax⟩
    · rw [hn]
      exact ⟨d, by simp, rfl, by simp⟩
    · rw [hn, newerOf]
      split_ifs with hlt
      · refine ⟨d, by simp, rfl, fun d' hd' => ?_⟩
        rcases List.mem_append.mp hd' with hd' | hd'
        · have := hmax d' hd'
          omega
        · rw [List.mem_singleton.mp hd']
      · refine ⟨b, by simp [hb], rfl, fun d' hd' => ?_⟩
        rcases List.mem_append.mp hd' with hd' | hd'
        · exact hmax d' hd'
        · rw [List.mem_singleton.mp hd']
          omega

lemma newest_eq_none : newest ds = none ↔ ds = [] := by
  rcases newest_spec ds with ⟨h, hn⟩ | ⟨d, hd, hn, -⟩
  · simp [h, newest]
  · simp only [hn, reduceCtorEq, false_iff]
    exact List.ne_nil_of_mem hd

lemma newest_mem (h : newest ds = some d) :
    d ∈ ds ∧ ∀ d' ∈ ds, d'.deliveryId ≤ d.deliveryId := by
  rcases newest_spec ds with ⟨-, hn⟩ | ⟨d₀, hd, hn, hmax⟩
  · rw [hn] at h
    cases h
  · rw [hn] at h
    cases h
    exact ⟨hd, hmax⟩

/-- Among deliveries with different ids, a greatest one is the newest. -/
lemma newest_eq_some (hinj : ∀ d ∈ ds, ∀ d' ∈ ds, d.deliveryId = d'.deliveryId → d = d')
    (hd : d ∈ ds) (hmax : ∀ d' ∈ ds, d'.deliveryId ≤ d.deliveryId) : newest ds = some d := by
  rcases newest_spec ds with ⟨rfl, -⟩ | ⟨b, hb, hn, hmax'⟩
  · simp at hd
  · rw [hn, hinj b hb d hd (le_antisymm (hmax b hb) (hmax' d hd))]

lemma newest_map {f : WebhookDelivery → WebhookDelivery}
    (hf : ∀ d, (f d).deliveryId = d.deliveryId) (ds : List WebhookDelivery) :
    newest (ds.map f) = (newest ds).map f := by
  induction ds using List.reverseRecOn with
  | nil => rfl
  | append_singleton ds d ih =>
    rw [List.map_append, List.map_singleton, newest_append, newest_append, ih]
    rcases newest ds with _ | b
    · rfl
    · simp only [Option.map_some, newerOf, hf]
      split_ifs <;> rfl

/-! ### The invariant -/

/-- What a delivery reports when nothing was acknowledged yet. -/
def initialContent : Content := (0, none)

/-- Ids, versions and contents of the deliveries of an address. -/
structure EventsRight (t : AddressTotals) (ds : List WebhookDelivery) : Prop where
  inj : ∀ d ∈ ds, ∀ d' ∈ ds, d.deliveryId = d'.deliveryId → d = d'
  pos : ∀ d ∈ ds, 0 < d.deliveryId
  named : ∀ d ∈ ds, d.eventId.addressId = t.addressId
  version : ∀ d ∈ ds, d.eventId.stateVersion ≤ t.stateVersion
  current : ∀ d ∈ ds, d.eventId.stateVersion = t.stateVersion → d.content = t.content
  ordered : ∀ d ∈ ds, ∀ d' ∈ ds, d.deliveryId < d'.deliveryId →
    d.eventId.stateVersion < d'.eventId.stateVersion

/-- Ids, versions and contents, and what the acknowledged event stands for. -/
structure OutboxRight (t : AddressTotals) (ds : List WebhookDelivery) : Prop
    extends EventsRight t ds where
  acked : ∀ e, t.lastNotifiedEventId = some e →
    ∃ d ∈ ds, d.eventId = e ∧ d.deliveryState = .succeeded ∧ d.content = t.notified
  unacked : t.lastNotifiedEventId = none → t.notified = initialContent
  succeeded : ∀ d ∈ ds, d.deliveryState = .succeeded →
    ∃ i, ackedDeliveryId t ds = some i ∧ d.deliveryId ≤ i

/-- An address the queue has nothing to do for: the receiver will see the current content. -/
def Settled (t : AddressTotals) (ds : List WebhookDelivery) : Prop :=
  t.dirtyState ≠ .dirty → t.content = baseline t ds

namespace OutboxRight

variable (h : OutboxRight t ds)

include h

lemma eq_of_version (hd : d ∈ ds) (hd' : d' ∈ ds)
    (hv : d.eventId.stateVersion = d'.eventId.stateVersion) : d = d' := by
  rcases lt_trichotomy d.deliveryId d'.deliveryId with hlt | heq | hgt
  · have := h.ordered d hd d' hd' hlt
    omega
  · exact h.inj d hd d' hd' heq
  · have := h.ordered d' hd' d hd hgt
    omega

lemma version_le (hd : d ∈ ds) (hd' : d' ∈ ds) (hle : d.deliveryId ≤ d'.deliveryId) :
    d.eventId.stateVersion ≤ d'.eventId.stateVersion := by
  rcases hle.lt_or_eq with hlt | heq
  · exact (h.ordered d hd d' hd' hlt).le
  · rw [h.inj d hd d' hd' heq]

/-- No delivery is newer than one of the current version. -/
lemma le_of_current (hd : d ∈ ds) (hv : d.eventId.stateVersion = t.stateVersion) :
    ∀ d' ∈ ds, d'.deliveryId ≤ d.deliveryId := by
  intro d' hd'
  by_contra hlt
  have h1 := h.ordered d hd d' hd' (not_le.mp hlt)
  have h2 := h.version d' hd'
  omega

/-- The acknowledged delivery is the one the totals name, and it reports what they hold. -/
lemma acked_eq {e : EventId} (he : t.lastNotifiedEventId = some e) :
    ∃ d ∈ ds, d.eventId = e ∧ ZcashPayment.acked t ds = some d ∧
      d.deliveryState = .succeeded ∧ d.content = t.notified := by
  obtain ⟨d, hd, hde, hs, hc⟩ := h.acked e he
  rcases hf : ds.find? (fun d => d.eventId = e) with _ | d'
  · exact absurd hde (by simpa using List.find?_eq_none.mp hf d hd)
  · have hd' : d' ∈ ds := List.mem_of_find?_eq_some hf
    have he' : d'.eventId = e := by simpa using List.find?_some hf
    have heq : d' = d := h.eq_of_version hd' hd (by rw [he', hde])
    refine ⟨d, hd, hde, ?_, hs, hc⟩
    simp [ZcashPayment.acked, he, hf, heq]

lemma acked_of_id {i : ℕ} (hi : ackedDeliveryId t ds = some i) :
    ∃ d ∈ ds, d.deliveryId = i ∧ t.lastNotifiedEventId = some d.eventId ∧
      d.deliveryState = .succeeded ∧ d.content = t.notified := by
  obtain ⟨d, ha, rfl⟩ := Option.map_eq_some_iff.mp hi
  rcases he : t.lastNotifiedEventId with _ | e
  · simp [ZcashPayment.acked, he] at ha
  · obtain ⟨d', hd', hde, ha', hs, hc⟩ := h.acked_eq he
    rw [ha] at ha'
    cases ha'
    exact ⟨d, hd', rfl, by rw [hde], hs, hc⟩

end OutboxRight

/-! ### Changes of the totals -/

/-- The totals still name the same acknowledged event. -/
structure SameAck (t t' : AddressTotals) : Prop where
  address : t'.addressId = t.addressId
  event : t'.lastNotifiedEventId = t.lastNotifiedEventId
  notified : t'.notified = t.notified

lemma SameAck.ackedDeliveryId (h : SameAck t t') :
    ackedDeliveryId t' ds = ZcashPayment.ackedDeliveryId t ds := by
  unfold ZcashPayment.ackedDeliveryId acked
  rw [h.event]

lemma SameAck.outstanding (h : SameAck t t') : outstanding t' ds = outstanding t ds := by
  unfold ZcashPayment.outstanding
  rw [h.ackedDeliveryId]

lemma SameAck.baseline (h : SameAck t t') : baseline t' ds = baseline t ds := by
  unfold ZcashPayment.baseline
  rw [h.outstanding, h.notified]

/-- A recomputation moves the version exactly when it changes the content. -/
lemma EventsRight.bump (h : EventsRight t ds) (ha : t'.addressId = t.addressId)
    (hv : t'.content = t.content ∧ t'.stateVersion = t.stateVersion ∨
      t'.stateVersion = t.stateVersion + 1) : EventsRight t' ds where
  inj := h.inj
  pos := h.pos
  named d hd := by rw [h.named d hd, ha]
  version d hd := by
    have := h.version d hd
    rcases hv with ⟨-, hv⟩ | hv <;> omega
  current d hd heq := by
    rcases hv with ⟨hc, hv⟩ | hv
    · rw [hc]
      exact h.current d hd (heq.trans hv)
    · have := h.version d hd
      omega
  ordered := h.ordered

lemma OutboxRight.bump (h : OutboxRight t ds) (hs : SameAck t t')
    (hv : t'.content = t.content ∧ t'.stateVersion = t.stateVersion ∨
      t'.stateVersion = t.stateVersion + 1) : OutboxRight t' ds where
  toEventsRight := h.toEventsRight.bump hs.address hv
  acked e he := by
    rw [hs.notified]
    exact h.acked e (hs.event ▸ he)
  unacked he := by
    rw [hs.notified]
    exact h.unacked (hs.event ▸ he)
  succeeded d hd hd' := by
    rw [hs.ackedDeliveryId]
    exact h.succeeded d hd hd'

/-! ### Changes of the deliveries -/

/-- A delivery row keeps its id, its event and its content. -/
structure SameEvents (f : WebhookDelivery → WebhookDelivery) : Prop where
  id : ∀ d, (f d).deliveryId = d.deliveryId
  address : ∀ d, (f d).addressId = d.addressId
  event : ∀ d, (f d).eventId = d.eventId
  content : ∀ d, (f d).content = d.content

lemma SameEvents.acked {f : WebhookDelivery → WebhookDelivery} (hf : SameEvents f) :
    acked t (ds.map f) = (ZcashPayment.acked t ds).map f := by
  unfold ZcashPayment.acked
  rcases t.lastNotifiedEventId with _ | e
  · rfl
  · simp only [Option.bind_some, List.find?_map]
    congr 2
    funext d
    simp [hf.event]

lemma SameEvents.ackedDeliveryId {f : WebhookDelivery → WebhookDelivery} (hf : SameEvents f) :
    ackedDeliveryId t (ds.map f) = ZcashPayment.ackedDeliveryId t ds := by
  unfold ZcashPayment.ackedDeliveryId
  rw [hf.acked, Option.map_map]
  congr 1
  funext d
  exact hf.id d

lemma EventsRight.map {f : WebhookDelivery → WebhookDelivery} (h : EventsRight t ds)
    (hf : SameEvents f) : EventsRight t (ds.map f) where
  inj d hd d' hd' heq := by
    obtain ⟨b, hb, rfl⟩ := List.mem_map.mp hd
    obtain ⟨b', hb', rfl⟩ := List.mem_map.mp hd'
    rw [hf.id, hf.id] at heq
    rw [h.inj b hb b' hb' heq]
  pos d hd := by
    obtain ⟨b, hb, rfl⟩ := List.mem_map.mp hd
    rw [hf.id]
    exact h.pos b hb
  named d hd := by
    obtain ⟨b, hb, rfl⟩ := List.mem_map.mp hd
    rw [hf.event, h.named b hb]
  version d hd := by
    obtain ⟨b, hb, rfl⟩ := List.mem_map.mp hd
    rw [hf.event]
    exact h.version b hb
  current d hd heq := by
    obtain ⟨b, hb, rfl⟩ := List.mem_map.mp hd
    rw [hf.event] at heq
    rw [hf.content, h.current b hb heq]
  ordered d hd d' hd' hlt := by
    obtain ⟨b, hb, rfl⟩ := List.mem_map.mp hd
    obtain ⟨b', hb', rfl⟩ := List.mem_map.mp hd'
    rw [hf.id, hf.id] at hlt
    rw [hf.event, hf.event]
    exact h.ordered b hb b' hb' hlt

/-- Rows may change state as long as no success is undone and every new one is covered by the
acknowledged event. -/
lemma OutboxRight.map {f : WebhookDelivery → WebhookDelivery} (h : OutboxRight t ds)
    (hf : SameEvents f)
    (hkeep : ∀ d ∈ ds, d.deliveryState = .succeeded → (f d).deliveryState = .succeeded)
    (hnew : ∀ d ∈ ds, (f d).deliveryState = .succeeded → d.deliveryState = .succeeded ∨
      ∃ i, ackedDeliveryId t ds = some i ∧ d.deliveryId ≤ i) : OutboxRight t (ds.map f) where
  toEventsRight := h.toEventsRight.map hf
  acked e he := by
    obtain ⟨d, hd, hde, hs, hc⟩ := h.acked e he
    exact ⟨f d, List.mem_map_of_mem hd, by rw [hf.event, hde], hkeep d hd hs,
      by rw [hf.content, hc]⟩
  unacked := h.unacked
  succeeded d hd hs := by
    obtain ⟨b, hb, rfl⟩ := List.mem_map.mp hd
    rw [hf.ackedDeliveryId, hf.id]
    rcases hnew b hb hs with hs | hi
    · exact h.succeeded b hb hs
    · exact hi

/-- The baseline does not move while the rows newer than the acknowledged one stay
outstanding or not as they were. -/
lemma SameEvents.baseline {f : WebhookDelivery → WebhookDelivery} (hf : SameEvents f)
    (hout : ∀ d ∈ ds, (ZcashPayment.ackedDeliveryId t ds).getD 0 < d.deliveryId →
      (f d).deliveryState.outstanding = d.deliveryState.outstanding) :
    baseline t (ds.map f) = ZcashPayment.baseline t ds := by
  have hfilter : (ds.map f).filter (fun d => d.deliveryState.outstanding &&
        decide ((ZcashPayment.ackedDeliveryId t (ds.map f)).getD 0 < d.deliveryId)) =
      (ds.filter fun d => d.deliveryState.outstanding &&
        decide ((ZcashPayment.ackedDeliveryId t ds).getD 0 < d.deliveryId)).map f := by
    rw [List.filter_map, hf.ackedDeliveryId]
    congr 1
    refine List.filter_congr fun d hd => ?_
    simp only [Function.comp_apply, hf.id]
    by_cases hlt : (ZcashPayment.ackedDeliveryId t ds).getD 0 < d.deliveryId
    · rw [hout d hd hlt]
    · simp [hlt]
  unfold ZcashPayment.baseline outstanding
  rw [hfilter, newest_map hf.id]
  rcases newest _ with _ | d
  · rfl
  · exact hf.content d

/-! ### The queue -/

variable {now : Timestamp}

lemma sameAck_cleaned (t : AddressTotals) : SameAck t (cleaned t) := ⟨rfl, rfl, rfl⟩

lemma sameAck_markedQueued (t : AddressTotals) : SameAck t (markedQueued t) := ⟨rfl, rfl, rfl⟩

lemma sameAck_requeued (now : Timestamp) (t : AddressTotals) : SameAck t (requeued now t) :=
  ⟨rfl, rfl, rfl⟩

/-- A new row does not change which delivery is acknowledged. -/
lemma OutboxRight.ackedDeliveryId_append (h : OutboxRight t ds) (d : WebhookDelivery) :
    ackedDeliveryId t (ds ++ [d]) = ackedDeliveryId t ds := by
  unfold ackedDeliveryId ZcashPayment.acked
  rcases he : t.lastNotifiedEventId with _ | e
  · rfl
  · obtain ⟨d₀, hd₀, hde, -⟩ := h.acked e he
    simp only [Option.bind_some, List.find?_append]
    rcases hf : ds.find? (fun d => d.eventId = e) with _ | d₁
    · exact absurd hde (by simpa using List.find?_eq_none.mp hf d₀ hd₀)
    · rw [hf, Option.some_or]

lemma OutboxRight.append (h : OutboxRight t ds) {i : ℕ} (address : String)
    (hi : 0 < i ∧ ∀ d ∈ ds, d.deliveryId < i)
    (hn : ∀ d ∈ ds, d.eventId ≠ ⟨t.addressId, t.stateVersion⟩) :
    OutboxRight t (ds ++ [queuedDelivery i address t now]) := by
  have hlt : ∀ d ∈ ds, d.eventId.stateVersion < t.stateVersion := by
    intro d hd
    refine lt_of_le_of_ne (h.version d hd) fun heq => hn d hd ?_
    rw [← h.named d hd, ← heq]
  refine ⟨⟨fun d hd d' hd' heq => ?_, fun d hd => ?_, fun d hd => ?_, fun d hd => ?_,
    fun d hd heq => ?_, fun d hd d' hd' hlt' => ?_⟩, fun e he => ?_, h.unacked,
    fun d hd hs => ?_⟩
  · rcases List.mem_append.mp hd with hd | hd <;> rcases List.mem_append.mp hd' with hd' | hd'
    · exact h.inj d hd d' hd' heq
    · rw [List.mem_singleton.mp hd'] at heq
      exact absurd heq (hi.2 d hd).ne
    · rw [List.mem_singleton.mp hd] at heq
      exact absurd heq (hi.2 d' hd').ne'
    · rw [List.mem_singleton.mp hd, List.mem_singleton.mp hd']
  · rcases List.mem_append.mp hd with hd | hd
    · exact h.pos d hd
    · rw [List.mem_singleton.mp hd]
      exact hi.1
  · rcases List.mem_append.mp hd with hd | hd
    · exact h.named d hd
    · rw [List.mem_singleton.mp hd]
      rfl
  · rcases List.mem_append.mp hd with hd | hd
    · exact h.version d hd
    · rw [List.mem_singleton.mp hd]
      exact le_rfl
  · rcases List.mem_append.mp hd with hd | hd
    · exact h.current d hd heq
    · rw [List.mem_singleton.mp hd]
      rfl
  · rcases List.mem_append.mp hd with hd | hd <;> rcases List.mem_append.mp hd' with hd' | hd'
    · exact h.ordered d hd d' hd' hlt'
    · rw [List.mem_singleton.mp hd']
      exact hlt d hd
    · rw [List.mem_singleton.mp hd] at hlt'
      exact absurd hlt' (hi.2 d' hd').asymm
    · rw [List.mem_singleton.mp hd, List.mem_singleton.mp hd'] at hlt'
      exact absurd hlt' (lt_irrefl _)
  · obtain ⟨d, hd, hde⟩ := h.acked e he
    exact ⟨d, List.mem_append_left _ hd, hde⟩
  · rw [h.ackedDeliveryId_append]
    rcases List.mem_append.mp hd with hd | hd
    · exact h.succeeded d hd hs
    · rw [List.mem_singleton.mp hd] at hs
      cases hs

lemma OutboxRight.queue {ds' : List WebhookDelivery} (h : OutboxRight t ds)
    (ho : QueueOutcome now t ds t' ds') : OutboxRight t' ds' := by
  cases ho with
  | skipped => exact h
  | cleaned => exact h.bump (sameAck_cleaned t) (Or.inl ⟨rfl, rfl⟩)
  | waiting => exact h.bump (sameAck_markedQueued t) (Or.inl ⟨rfl, rfl⟩)
  | queued _ _ i address hi hn =>
    exact (h.append address hi hn).bump (sameAck_requeued now t) (Or.inl ⟨rfl, rfl⟩)
  | ignored => exact h.bump (sameAck_requeued now t) (Or.inl ⟨rfl, rfl⟩)

/-- A success is at most as new as the acknowledged one, and nothing is acknowledged beyond
the newest delivery. -/
lemma OutboxRight.acked_of_newest (h : OutboxRight t ds) (hd : newest ds = some d)
    (hs : d.deliveryState = .succeeded) :
    ackedDeliveryId t ds = some d.deliveryId ∧ d.content = t.notified := by
  obtain ⟨hmem, hmax⟩ := newest_mem hd
  obtain ⟨i, hi, hle⟩ := h.succeeded d hmem hs
  obtain ⟨d₀, hd₀, rfl, -, -, hc⟩ := h.acked_of_id hi
  have heq : d₀ = d := h.inj d₀ hd₀ d hmem (le_antisymm (hmax d₀ hd₀) hle)
  subst heq
  exact ⟨hi, hc⟩

/-- **The baseline is what the newest delivery reports**, unless that one has failed. -/
lemma OutboxRight.baseline_of_newest (h : OutboxRight t ds) (hd : newest ds = some d)
    (hf : d.deliveryState ≠ .permanentFailure) : baseline t ds = d.content := by
  obtain ⟨hmem, hmax⟩ := newest_mem hd
  by_cases hs : d.deliveryState = .succeeded
  · obtain ⟨hi, hc⟩ := h.acked_of_newest hd hs
    have hnone : outstanding t ds = none := by
      rw [outstanding, newest_eq_none, List.filter_eq_nil_iff]
      intro d' hd'
      have := hmax d' hd'
      simp [hi]
      omega
    rw [baseline, hnone, hc]
    rfl
  · have hout : d.deliveryState.outstanding = true := by
      cases hst : d.deliveryState <;> simp_all [DeliveryState.outstanding]
    have hlt : (ackedDeliveryId t ds).getD 0 < d.deliveryId := by
      rcases hi : ackedDeliveryId t ds with _ | i
      · exact h.pos d hmem
      · obtain ⟨d₀, hd₀, rfl, -, hs₀, -⟩ := h.acked_of_id hi
        refine lt_of_le_of_ne (hmax d₀ hd₀) fun heq => hs ?_
        rw [← h.inj d₀ hd₀ d hmem heq]
        exact hs₀
    have hsome : outstanding t ds = some d := by
      refine newest_eq_some (fun d hd d' hd' => h.inj d (List.mem_of_mem_filter hd) d'
        (List.mem_of_mem_filter hd')) (List.mem_filter.mpr ⟨hmem, by simp [hout, hlt]⟩)
        fun d' hd' => hmax d' (List.mem_of_mem_filter hd')
    rw [baseline, hsome]
    rfl

/-- Without deliveries the baseline is what the totals started with. -/
lemma OutboxRight.baseline_of_nil (h : OutboxRight t []) : baseline t [] = initialContent := by
  rcases he : t.lastNotifiedEventId with _ | e
  · exact h.unacked he
  · obtain ⟨d, hd, -⟩ := h.acked e he
    simp at hd

/-- An insert that is ignored found the newest delivery, with the current content. -/
lemma OutboxRight.newest_of_current (h : OutboxRight t ds) (hd : d ∈ ds)
    (he : d.eventId = ⟨t.addressId, t.stateVersion⟩) :
    newest ds = some d ∧ d.content = t.content :=
  ⟨newest_eq_some h.inj hd (h.le_of_current hd (by rw [he])), h.current d hd (by rw [he])⟩

/-- **The queue settles an address**, as long as no delivery has failed for good. -/
lemma Settled.queue {ds' : List WebhookDelivery} (h : OutboxRight t ds)
    (hf : ∀ d ∈ ds, d.deliveryState ≠ .permanentFailure) (hs : Settled t ds)
    (ho : QueueOutcome now t ds t' ds') : Settled t' ds' := by
  cases ho with
  | skipped => exact hs
  | cleaned _ hb => exact fun _ => hb.trans (sameAck_cleaned t).baseline.symm
  | waiting _ hb => exact fun _ => hb.trans (sameAck_markedQueued t).baseline.symm
  | queued _ _ i address hi hn =>
    intro _
    have hright : OutboxRight t (ds ++ [queuedDelivery i address t now]) :=
      h.append address hi hn
    have hnew : newest (ds ++ [queuedDelivery i address t now]) =
        some (queuedDelivery i address t now) := by
      refine newest_eq_some hright.inj (by simp) fun d' hd' => ?_
      rcases List.mem_append.mp hd' with hd' | hd'
      · exact (hi.2 d' hd').le
      · rw [List.mem_singleton.mp hd']
    rw [(sameAck_requeued now t).baseline, hright.baseline_of_newest hnew nofun]
    rfl
  | ignored _ hb d hmem he =>
    obtain ⟨hnew, hc⟩ := h.newest_of_current hmem he
    exact absurd (hc.symm.trans (h.baseline_of_newest hnew (hf d hmem)).symm) hb

/-! ### Acknowledgments -/

lemma sameEvents_ite {f : WebhookDelivery → WebhookDelivery} (hf : SameEvents f)
    (p : WebhookDelivery → Bool) : SameEvents fun d => if p d then f d else d where
  id d := by split_ifs; exacts [hf.id d, rfl]
  address d := by split_ifs; exacts [hf.address d, rfl]
  event d := by split_ifs; exacts [hf.event d, rfl]
  content d := by split_ifs; exacts [hf.content d, rfl]

lemma sameEvents_attemptedRow (at' : Attempt) (state : DeliveryState)
    (nextAttemptAt : Option Timestamp) : SameEvents (attemptedRow at' state nextAttemptAt) :=
  ⟨fun _ => rfl, fun _ => rfl, fun _ => rfl, fun _ => rfl⟩

/-- **An acknowledgment that is not older moves to the delivery that succeeded.** -/
lemma OutboxRight.acknowledge (h : OutboxRight t ds) (hd : d ∈ ds)
    (hnew : ∀ i, ackedDeliveryId t ds = some i → i ≤ d.deliveryId)
    {f : WebhookDelivery → WebhookDelivery} (hf : SameEvents f)
    (hsucc : (f d).deliveryState = .succeeded)
    (hother : ∀ b ∈ ds, b.deliveryId ≠ d.deliveryId → (f b).deliveryState = b.deliveryState)
    (attemptedAt : Timestamp) :
    OutboxRight (acknowledgedBy d attemptedAt t) (ds.map f) ∧
      ackedDeliveryId (acknowledgedBy d attemptedAt t) (ds.map f) = some d.deliveryId := by
  have hacked : ackedDeliveryId (acknowledgedBy d attemptedAt t) (ds.map f) =
      some d.deliveryId := by
    rw [hf.ackedDeliveryId]
    unfold ackedDeliveryId ZcashPayment.acked
    simp only [acknowledgedBy, Option.bind_some]
    rcases hfind : ds.find? (fun b => b.eventId = d.eventId) with _ | b
    · simpa using List.find?_eq_none.mp hfind d hd
    · have hb : b.eventId = d.eventId := by simpa using List.find?_some hfind
      have heq : b = d := h.eq_of_version (List.mem_of_find?_eq_some hfind) hd (by rw [hb])
      rw [hfind, heq]
      rfl
  refine ⟨⟨(h.toEventsRight.map hf).bump rfl (Or.inl ⟨rfl, rfl⟩), fun e he => ?_, nofun,
    fun b hb hs => ?_⟩, hacked⟩
  · cases he
    exact ⟨f d, List.mem_map_of_mem hd, hf.event d, hsucc, hf.content d⟩
  · obtain ⟨c, hc, rfl⟩ := List.mem_map.mp hb
    refine ⟨d.deliveryId, hacked, ?_⟩
    rw [hf.id]
    by_cases heq : c.deliveryId = d.deliveryId
    · exact heq.le
    · rw [hother c hc heq] at hs
      obtain ⟨i, hi, hle⟩ := h.succeeded c hc hs
      exact hle.trans (hnew i hi)

end ZcashPayment

import Mathlib.Data.Prod.Lex
import Mathlib.Data.String.Basic
import ZcashPayment.Deliveries
import ZcashPayment.Ledger
import ZcashPayment.Timestamps

/-!
The comparisons of stored times.

Whether a retry is due, which delivery is the oldest, and whether a mempool receipt is fresh
are decided by comparing texts. Each of the three agrees with the instants exactly where the
two texts it compares do not clash.
-/

namespace ZcashPayment

namespace Instant

variable {i j : Instant}

/-- The same time of the day before; the year 0000 has none before it. -/
def yesterday (i : Instant) : Option Instant :=
  if h : 1 < i.day then
    some { i with
      day := i.day - 1
      day_mem := ⟨by omega, (Nat.sub_le _ _).trans i.day_mem.2⟩ }
  else if h : 1 < i.month then
    some { i with
      month := i.month - 1
      day := daysInMonth i.year (i.month - 1)
      month_mem := ⟨by omega, (Nat.sub_le _ _).trans i.month_mem.2⟩
      day_mem := ⟨by unfold daysInMonth; split_ifs <;> omega, le_rfl⟩ }
  else if h : 0 < i.year then
    some { i with
      year := i.year - 1
      month := 12
      day := 31
      year_lt := (Nat.sub_le _ _).trans_lt i.year_lt
      month_mem := by decide
      day_mem := ⟨by decide, by simp [daysInMonth]⟩ }
  else none

/-- **A day earlier.** -/
lemma yesterday_toNanos (h : i.yesterday = some j) :
    j.toNanos + 24 * 3600 * 1000000000 = i.toNanos := by
  have hday := i.day_mem
  have hmonth := i.month_mem
  have hdays : j.days + 1 = i.days ∧ j.secondOfDay = i.secondOfDay ∧
      j.nanosecond = i.nanosecond := by
    unfold yesterday at h
    split_ifs at h with h1 h2 h3 <;> cases h <;> refine ⟨?_, rfl, rfl⟩
    · simp only [days, dayOfYear]
      omega
    · have hfirst : i.day - 1 = 0 := by omega
      obtain ⟨m, hm⟩ : ∃ m, i.month = m + 2 := ⟨i.month - 2, by omega⟩
      simp only [days, dayOfYear, hfirst, hm]
      have hlen : 0 < daysInMonth i.year (m + 1) := by
        unfold daysInMonth
        split_ifs <;> omega
      change _ + (FixedWidth.accumulate _ m + _) + 1 = _ + (FixedWidth.accumulate _ (m + 1) + _)
      simp only [FixedWidth.accumulate]
      change _ + (_ + (daysInMonth i.year (m + 1) - 1)) + 1 = _
      omega
    · have hfirst : i.day - 1 = 0 := by omega
      have hjan : i.month - 1 = 0 := by omega
      obtain ⟨y, hy⟩ : ∃ y, i.year = y + 1 := ⟨i.year - 1, by omega⟩
      simp only [days, dayOfYear, hfirst, hjan, hy, Nat.add_sub_cancel, FixedWidth.accumulate]
      simp only [daysInYear, daysInMonth]
      by_cases hl : isLeap y = true <;> simp [hl]
  unfold toNanos toSeconds
  omega

/-- `mempool_fresh_cutoff` -/
def mempoolFreshCutoff (now : Instant) : Option Timestamp := now.yesterday.map rfc3339

lemma Clash.toNanos_ne (h : Clash i j) : i.toNanos ≠ j.toNanos := by
  intro heq
  have hs := h.1
  have hn : i.nanosecond = j.nanosecond := by
    unfold toNanos at heq
    omega
  exact h.2.1 (by rw [fraction, fraction, hn])

/-- **One comparison**: strictly before, in text and in time. -/
lemma lt_agrees_iff : (i.rfc3339 < j.rfc3339 ↔ i < j) ↔ ¬Clash i j := by
  rw [rfc3339_lt_iff]
  split_ifs with h
  · have hne := h.toNanos_ne
    simp only [h, not_true, iff_false, lt_def]
    omega
  · simp [h]

/-- **One comparison**: not after, in text and in time. -/
lemma le_agrees_iff : (i.rfc3339 ≤ j.rfc3339 ↔ i ≤ j) ↔ ¬Clash i j := by
  have hle : i ≤ j ↔ ¬j < i := by simp only [le_def, lt_def, Nat.not_lt]
  rw [← not_lt, hle, not_iff_not, lt_agrees_iff]
  exact not_congr ⟨Clash.symm, Clash.symm⟩

/-- Texts of which neither is before the other are equal. -/
lemma rfc3339_eq_iff : i.rfc3339 = j.rfc3339 ↔ i.toNanos = j.toNanos := by
  constructor
  · intro h
    by_contra hne
    have h1 := rfc3339_lt_iff (i := i) (j := j)
    have h2 := rfc3339_lt_iff (i := j) (j := i)
    have hsymm : Clash j i ↔ Clash i j := ⟨Clash.symm, Clash.symm⟩
    simp only [h, lt_irrefl, false_iff, hsymm, lt_def] at h1 h2
    split_ifs at h1 h2 <;> omega
  · intro h
    have hij : ¬Clash i j := fun hc => hc.toNanos_ne h
    have hji : ¬Clash j i := fun hc => hc.toNanos_ne h.symm
    refine le_antisymm (not_lt.mp ?_) (not_lt.mp ?_)
    · rw [lt_agrees_iff.mpr hji, lt_def]
      omega
    · rw [lt_agrees_iff.mpr hij, lt_def]
      omega

end Instant

/-! ### The oldest delivery -/

variable {b c d : WebhookDelivery} {ds : List WebhookDelivery} {now : Timestamp}

/-- What `ORDER BY observed_at ASC, delivery_id ASC` compares. -/
def ageKey (d : WebhookDelivery) : Timestamp ×ₗ ℕ := toLex (d.observedAt, d.deliveryId)

lemma ageKey_lt_iff : ageKey d < ageKey b ↔
    d.observedAt < b.observedAt ∨ d.observedAt = b.observedAt ∧ d.deliveryId < b.deliveryId :=
  Prod.Lex.toLex_lt_toLex

lemma olderOf_eq (b d : WebhookDelivery) :
    olderOf (some b) d = if ageKey d < ageKey b then some d else some b := by
  simp only [olderOf, ageKey_lt_iff]

/-- The fold keeps one of the rows it has seen, and none of them is older. -/
lemma foldl_olderOf_least (b : WebhookDelivery) (ds : List WebhookDelivery) :
    ∃ c, ds.foldl olderOf (some b) = some c ∧ c ∈ b :: ds ∧ ∀ d ∈ b :: ds, ageKey c ≤ ageKey d := by
  induction ds generalizing b with
  | nil => exact ⟨b, rfl, List.mem_singleton_self b, by simp⟩
  | cons d ds ih =>
    rw [List.foldl_cons, olderOf_eq]
    split_ifs with h
    · obtain ⟨c, hc, hmem, hmin⟩ := ih d
      refine ⟨c, hc, List.mem_cons_of_mem _ hmem, fun x hx => ?_⟩
      rcases List.mem_cons.mp hx with rfl | hx
      · exact (hmin d List.mem_cons_self).trans h.le
      · exact hmin x hx
    · obtain ⟨c, hc, hmem, hmin⟩ := ih b
      refine ⟨c, hc, ?_, fun x hx => ?_⟩
      · rcases List.mem_cons.mp hmem with rfl | hmem
        · exact List.mem_cons_self
        · exact List.mem_cons_of_mem _ (List.mem_cons_of_mem _ hmem)
      · rcases List.mem_cons.mp hx with rfl | hx
        · exact hmin _ List.mem_cons_self
        · rcases List.mem_cons.mp hx with rfl | hx
          · exact (hmin b List.mem_cons_self).trans (not_lt.mp h)
          · exact hmin x (List.mem_cons_of_mem _ hx)

/-- **The claimed row** is a ready one, and none is before it in the order of the query. -/
lemma oldestReady_least (h : ∃ d ∈ ds, ready now d = true) :
    ∃ c ∈ ds, ready now c = true ∧ oldestReady now ds = some c ∧
      ∀ d ∈ ds, ready now d = true → ageKey c ≤ ageKey d := by
  obtain ⟨d₀, hd₀, hready₀⟩ := h
  rcases hf : ds.filter (ready now) with _ | ⟨b, rest⟩
  · exact absurd (List.mem_filter.mpr ⟨hd₀, hready₀⟩) (by simp [hf])
  · obtain ⟨c, hc, hmem, hmin⟩ := foldl_olderOf_least b rest
    rw [← hf] at hmem hmin
    obtain ⟨hcds, hcready⟩ := List.mem_filter.mp hmem
    refine ⟨c, hcds, hcready, ?_, fun d hd hr => hmin d (List.mem_filter.mpr ⟨hd, hr⟩)⟩
    rw [oldestReady, hf]
    exact hc

/-- The ready row with the earliest instant, by delivery id among equals. -/
structure EarliestReady (observed : WebhookDelivery → Instant) (now : Timestamp)
    (ds : List WebhookDelivery) (e : WebhookDelivery) : Prop where
  mem : e ∈ ds
  ready : ready now e = true
  earliest : ∀ d ∈ ds, ZcashPayment.ready now d = true →
    (observed e).toNanos < (observed d).toNanos ∨
      (observed e).toNanos = (observed d).toNanos ∧ e.deliveryId ≤ d.deliveryId

/-- **The row chosen for delivery** is the earliest ready row exactly when no ready row clashes
with it. -/
lemma claims_earliest_iff {db : Db} {observed : WebhookDelivery → Instant} {e : WebhookDelivery}
    (hobs : ∀ d ∈ db.webhookDeliveries.rows, d.observedAt = (observed d).rfc3339)
    (he : EarliestReady observed now db.webhookDeliveries.rows e) :
    (claimReadyWebhookDelivery now db).1 = some e ↔
      ∀ d ∈ db.webhookDeliveries.rows, ready now d = true →
        ¬Instant.Clash (observed e) (observed d) := by
  obtain ⟨c, hc, hcready, hold, hmin⟩ := oldestReady_least ⟨e, he.mem, he.ready⟩
  have hclaim : (claimReadyWebhookDelivery now db).1 = some c := by
    rw [claimReadyWebhookDelivery, hold]
  rw [hclaim, Option.some.injEq]
  constructor
  · rintro rfl d hd hready hclash
    -- A clashing row is later, so its text is the smaller one.
    have hlt : (observed c).toNanos < (observed d).toNanos :=
      (he.earliest d hd hready).resolve_right fun h => hclash.toNanos_ne h.1
    have htext : (observed d).rfc3339 < (observed c).rfc3339 := by
      rw [Instant.rfc3339_lt_iff, if_pos hclash.symm]
      exact hlt
    refine absurd (hmin d hd hready) (not_le.mpr (ageKey_lt_iff.mpr (Or.inl ?_)))
    rwa [hobs d hd, hobs c hc]
  · intro hnone
    have hagree := Instant.lt_agrees_iff.mpr (hnone c hc hcready)
    have hmine := hmin e he.mem he.ready
    have hnot : ¬ageKey e < ageKey c := not_lt.mpr hmine
    rw [ageKey_lt_iff, hobs e he.mem, hobs c hc, hagree, not_or] at hnot
    rcases he.earliest c hc hcready with hlt | ⟨heq, hid⟩
    · exact absurd hlt hnot.1
    · have hids : ¬e.deliveryId < c.deliveryId := fun h =>
        hnot.2 ⟨Instant.rfc3339_eq_iff.mpr heq, h⟩
      exact db.webhookDeliveries.eq_of_key hc he.mem (by omega)

/-! ### The three comparisons -/

/-- **Stored times compare like their instants** exactly where they do not clash: whether a
retry is due, whether the earliest ready row is claimed, and whether a mempool receipt is
fresh. -/
theorem stored_times_compare_iff (now : Instant) :
    (∀ (d : WebhookDelivery) (next : Instant), d.deliveryState = .retryWait →
      d.nextAttemptAt = some next.rfc3339 →
      ((ready now.rfc3339 d = true ↔ next ≤ now) ↔ ¬Instant.Clash next now)) ∧
    (∀ (db : Db) (observed : WebhookDelivery → Instant) (e : WebhookDelivery),
      (∀ d ∈ db.webhookDeliveries.rows, d.observedAt = (observed d).rfc3339) →
      EarliestReady observed now.rfc3339 db.webhookDeliveries.rows e →
      ((claimReadyWebhookDelivery now.rfc3339 db).1 = some e ↔
        ∀ d ∈ db.webhookDeliveries.rows, ready now.rfc3339 d = true →
          ¬Instant.Clash (observed e) (observed d))) ∧
    ∀ (first dayBefore : Instant) (cutoff : Timestamp), now.yesterday = some dayBefore →
      now.mempoolFreshCutoff = some cutoff →
      ((isFresh 0 cutoff first.rfc3339 = true ↔
          now.toNanos < first.toNanos + 24 * 3600 * 1000000000) ↔
        ¬Instant.Clash dayBefore first) := by
  refine ⟨fun d next hstate hnext => ?_, fun db observed e hobs he => ?_,
    fun first dayBefore cutoff hday hcutoff => ?_⟩
  · rw [← Instant.le_agrees_iff]
    simp [ready, hstate, hnext]
  · exact claims_earliest_iff hobs he
  · obtain rfl : dayBefore.rfc3339 = cutoff := by
      simpa [Instant.mempoolFreshCutoff, hday] using hcutoff
    have hnanos := Instant.yesterday_toNanos hday
    have hlater : now.toNanos < first.toNanos + 24 * 3600 * 1000000000 ↔ dayBefore < first := by
      rw [Instant.lt_def]
      omega
    rw [hlater, ← Instant.lt_agrees_iff]
    simp [isFresh]

/-- Half past midnight on the second of January, and so many nanoseconds. -/
def testInstant (nanosecond : ℕ) (h : nanosecond < 1000000000) : Instant :=
  ⟨2026, 1, 2, 0, 30, 0, nanosecond, by decide, by decide, by decide, by decide, by decide,
    by decide, h⟩

example : (testInstant 500000000 (by decide)).rfc3339 = "2026-01-02T00:30:00.5Z" := by decide

/-- A delivery that waits for its retry. -/
def waitingDelivery (deliveryId : ℕ) (observed next : Instant) : WebhookDelivery where
  deliveryId
  addressId := 1
  eventId := ⟨1, deliveryId⟩
  totalReceivedZat := 5
  observedAt := observed.rfc3339
  requestBodyJson := webhookBody ⟨1, deliveryId⟩ "u1" (5, none) observed.rfc3339
  deliveryState := .retryWait
  nextAttemptAt := some next.rfc3339
  receivedByConfirmations := none

/-- Fractions of which neither continues the other. -/
theorem stored_times_compare_half_seconds :
    let a := testInstant 250000000 (by decide)
    let b := testInstant 500000000 (by decide)
    (ready b.rfc3339 (waitingDelivery 1 a a) = true ↔ a ≤ b) ∧
      (claimReadyWebhookDelivery b.rfc3339 { Db.fresh with
        webhookDeliveries := ⟨[waitingDelivery 1 b a, waitingDelivery 2 a a], by decide⟩ }).1 =
          some (waitingDelivery 2 a a) ∧
      ∀ dayBefore cutoff, b.yesterday = some dayBefore → b.mempoolFreshCutoff = some cutoff →
        (isFresh 0 cutoff a.rfc3339 = true ↔
          b.toNanos < a.toNanos + 24 * 3600 * 1000000000) := by
  intro a b
  obtain ⟨hready, hclaim, hfresh⟩ := stored_times_compare_iff b
  refine ⟨(hready (waitingDelivery 1 a a) a rfl rfl).mpr (by decide +kernel), ?_,
    fun dayBefore cutoff hday hcutoff => (hfresh a dayBefore cutoff hday hcutoff).mpr ?_⟩
  · refine (hclaim _ (fun d => if d.deliveryId = 1 then b else a) _ ?_ ?_).mpr ?_
    · intro d hd
      rcases List.mem_pair.mp hd with rfl | rfl <;> rfl
    · refine ⟨List.mem_pair.mpr (Or.inr rfl), by decide +kernel, fun d hd _ => ?_⟩
      rcases List.mem_pair.mp hd with rfl | rfl
      · exact Or.inl (by decide +kernel)
      · exact Or.inr ⟨rfl, le_rfl⟩
    · intro d hd _
      rcases List.mem_pair.mp hd with rfl | rfl <;> decide +kernel
  · obtain rfl : dayBefore = _ := (Option.some.inj hday).symm
    decide +kernel

/-- Half a second late: the text of the whole second is the greater one, so a retry is due
before its time, the later of two rows is claimed, and a receipt is dropped early. -/
theorem whole_second_is_after_its_fractions :
    let whole := testInstant 0 (by decide)
    let half := testInstant 500000000 (by decide)
    (whole < half ∧ ready whole.rfc3339 (waitingDelivery 1 whole half) = true) ∧
      (claimReadyWebhookDelivery half.rfc3339 { Db.fresh with
        webhookDeliveries := ⟨[waitingDelivery 1 whole half, waitingDelivery 2 half half],
          by decide⟩ }).1 = some (waitingDelivery 2 half half) ∧
      ∃ dayBefore : Instant, whole.yesterday = some dayBefore ∧
        whole.toNanos <
          { dayBefore with nanosecond := 500000000, nanosecond_lt := by decide }.toNanos +
            24 * 3600 * 1000000000 ∧
        isFresh 0 dayBefore.rfc3339
          (Instant.rfc3339 { dayBefore with
            nanosecond := 500000000, nanosecond_lt := by decide }) = false := by
  refine ⟨⟨by decide +kernel, by decide +kernel⟩, by decide +kernel, _, rfl, by decide +kernel,
    by decide +kernel⟩

end ZcashPayment

import ZcashPayment.Deliveries

/-!
What the queue does to one address.

The loop treats each address on its own: it reads the totals and the deliveries of that
address and writes nothing of any other. `QueueOutcome` lists what one turn can do to an
address that is considered, guards included; every later fact about the queue is a case
analysis on it.
-/

namespace ZcashPayment

variable {db : Db} {a b : ℕ} {now : Timestamp} {t t' : AddressTotals}
  {ds ds' : List WebhookDelivery}

/-! ### What the writes leave alone -/

section frame

variable {f : AddressTotals → AddressTotals} {hf : ∀ t, (f t).addressId = t.addressId}

lemma find?_setTotals :
    (db.setTotals a f hf).addressTotals.find? b =
      (db.addressTotals.find? b).map fun t => if b = a then f t else t := by
  unfold Db.setTotals
  rw [Table.find?_update _ fun t => by split_ifs; exacts [hf t, rfl]]
  rcases hb : db.addressTotals.find? b with _ | t
  · rfl
  · simp [Table.key_of_find? hb]

@[simp] lemma deliveriesOf_setTotals :
    (db.setTotals a f hf).deliveriesOf b = db.deliveriesOf b := rfl

@[simp] lemma issued_setTotals : (db.setTotals a f hf).issued b = db.issued b := rfl

variable {address : String}

/-- The delivery an insert adds. -/
def Db.nextDelivery (db : Db) (address : String) (t : AddressTotals) (now : Timestamp) :
    WebhookDelivery :=
  queuedDelivery (nextRowId (db.webhookDeliveries.rows.map WebhookDelivery.deliveryId)) address t
    now

@[simp] lemma addressTotals_insertDelivery :
    (db.insertDelivery address t now).addressTotals = db.addressTotals := by
  unfold Db.insertDelivery
  split_ifs <;> rfl

@[simp] lemma issuedAddresses_insertDelivery :
    (db.insertDelivery address t now).issuedAddresses = db.issuedAddresses := by
  unfold Db.insertDelivery
  split_ifs <;> rfl

lemma rows_insertDelivery (h : ∀ d ∈ db.webhookDeliveries.rows,
    d.eventId ≠ ⟨t.addressId, t.stateVersion⟩) :
    (db.insertDelivery address t now).webhookDeliveries.rows =
      db.webhookDeliveries.rows ++ [db.nextDelivery address t now] := by
  unfold Db.insertDelivery
  rw [if_neg (by simpa using h)]
  rfl

lemma insertDelivery_ignored {d : WebhookDelivery} (hd : d ∈ db.webhookDeliveries.rows)
    (h : d.eventId = ⟨t.addressId, t.stateVersion⟩) : db.insertDelivery address t now = db := by
  unfold Db.insertDelivery
  rw [if_pos (by simpa using ⟨d, hd, h⟩)]

lemma deliveriesOf_insertDelivery_of_ne (h : b ≠ t.addressId) :
    (db.insertDelivery address t now).deliveriesOf b = db.deliveriesOf b := by
  unfold Db.insertDelivery
  split_ifs
  · rfl
  · simp [Db.deliveriesOf, Table.rows_insert, queuedDelivery, h.symm]

lemma lt_nextDelivery (address : String) (t : AddressTotals) (now : Timestamp)
    {d : WebhookDelivery} (hd : d ∈ db.webhookDeliveries.rows) :
    d.deliveryId < (db.nextDelivery address t now).deliveryId :=
  lt_nextRowId (List.mem_map_of_mem hd)

end frame

/-! ### One turn of the loop -/

/-- What the queue does to the totals `t` and the deliveries `ds` of an address. -/
inductive QueueOutcome (now : Timestamp) (t : AddressTotals) (ds : List WebhookDelivery) :
    AddressTotals → List WebhookDelivery → Prop
  | skipped (h : t.dirtyState ≠ .dirty) : QueueOutcome now t ds t ds
  | cleaned (hd : t.dirtyState = .dirty) (hb : t.content = baseline t ds)
      (ho : outstanding t ds = none) : QueueOutcome now t ds (cleaned t) ds
  | waiting (hd : t.dirtyState = .dirty) (hb : t.content = baseline t ds)
      (ho : outstanding t ds ≠ none) : QueueOutcome now t ds (markedQueued t) ds
  | queued (hd : t.dirtyState = .dirty) (hb : t.content ≠ baseline t ds) (i : ℕ)
      (address : String) (hi : 0 < i ∧ ∀ d ∈ ds, d.deliveryId < i)
      (hn : ∀ d ∈ ds, d.eventId ≠ ⟨t.addressId, t.stateVersion⟩) :
      QueueOutcome now t ds (requeued now t)
        (ds ++ [queuedDelivery i address t now])
  | ignored (hd : t.dirtyState = .dirty) (hb : t.content ≠ baseline t ds)
      (d : WebhookDelivery) (hmem : d ∈ ds)
      (he : d.eventId = ⟨t.addressId, t.stateVersion⟩) :
      QueueOutcome now t ds (requeued now t) ds

/-- The address in an event id is the delivery's. -/
def EventsNamed (db : Db) : Prop :=
  ∀ d ∈ db.webhookDeliveries.rows, d.eventId.addressId = d.addressId

lemma mem_deliveriesOf {d : WebhookDelivery} :
    d ∈ db.deliveriesOf a ↔ d ∈ db.webhookDeliveries.rows ∧ d.addressId = a := by
  simp [Db.deliveriesOf]

variable {acc : List ℕ × Db}

/-- An address the turn is not about keeps its rows. -/
lemma queueOne_of_ne (now : Timestamp) (acc : List ℕ × Db) (h : b ≠ a) :
    (queueOne now acc a).2.addressTotals.find? b = acc.2.addressTotals.find? b ∧
      (queueOne now acc a).2.deliveriesOf b = acc.2.deliveriesOf b := by
  unfold queueOne
  simp only
  split
  next issued t hissued ht =>
    have hta : t.addressId = a := Table.key_of_find? ht
    split_ifs
    · exact ⟨rfl, rfl⟩
    · exact ⟨by simp [find?_setTotals, h], rfl⟩
    · exact ⟨by simp [find?_setTotals, h], rfl⟩
    · refine ⟨by simp [find?_setTotals, h], ?_⟩
      simp only
      rw [deliveriesOf_setTotals, deliveriesOf_insertDelivery_of_ne (hta ▸ h)]
  next => exact ⟨rfl, rfl⟩

lemma queueOne_issuedAddresses :
    (queueOne now acc a).2.issuedAddresses = acc.2.issuedAddresses := by
  unfold queueOne
  simp only
  split
  · split_ifs <;> simp [Db.setTotals]
  · rfl

/-- **One turn**: an address that has totals gets one of the outcomes. -/
lemma queueOne_outcome (now : Timestamp) (hev : EventsNamed acc.2) (hi : acc.2.issued a)
    (ht : acc.2.addressTotals.find? a = some t) :
    ∃ t', (queueOne now acc a).2.addressTotals.find? a = some t' ∧
      QueueOutcome now t (acc.2.deliveriesOf a) t' ((queueOne now acc a).2.deliveriesOf a) := by
  obtain ⟨issued, hissued⟩ := Option.isSome_iff_exists.mp hi
  have hta : t.addressId = a := Table.key_of_find? ht
  unfold queueOne
  simp only [hissued, ht]
  split_ifs with hd hb ho
  · exact ⟨t, ht, .skipped hd⟩
  · exact ⟨cleaned t, by simp [find?_setTotals, ht],
      .cleaned (not_not.mp hd) hb (Option.isNone_iff_eq_none.mp ho)⟩
  · exact ⟨markedQueued t, by simp [find?_setTotals, ht],
      .waiting (not_not.mp hd) hb (by simpa using ho)⟩
  · refine ⟨requeued now t, by simp [find?_setTotals, ht], ?_⟩
    rw [deliveriesOf_setTotals]
    by_cases he : ∃ d ∈ acc.2.webhookDeliveries.rows, d.eventId = ⟨t.addressId, t.stateVersion⟩
    · obtain ⟨d, hmem, he⟩ := he
      rw [insertDelivery_ignored hmem he]
      refine .ignored (not_not.mp hd) hb d (mem_deliveriesOf.mpr ⟨hmem, ?_⟩) he
      rw [← hev d hmem, he, hta]
    · push Not at he
      have hrows : (acc.2.insertDelivery issued.unifiedAddress t now).deliveriesOf a =
          acc.2.deliveriesOf a ++ [acc.2.nextDelivery issued.unifiedAddress t now] := by
        unfold Db.deliveriesOf
        rw [rows_insertDelivery he, List.filter_append]
        simp [Db.nextDelivery, queuedDelivery, hta]
      rw [hrows]
      exact .queued (not_not.mp hd) hb _ _
        ⟨Nat.succ_pos _,
          fun d hmem => lt_nextDelivery issued.unifiedAddress t now (mem_deliveriesOf.mp hmem).1⟩
        fun d hmem => he d (mem_deliveriesOf.mp hmem).1

lemma queueOne_events (now : Timestamp) (a : ℕ) (hev : EventsNamed acc.2) :
    EventsNamed (queueOne now acc a).2 := by
  unfold queueOne
  simp only
  split
  next issued t hissued ht =>
    split_ifs
    · exact hev
    · exact hev
    · exact hev
    · intro d hd
      by_cases he : ∃ d ∈ acc.2.webhookDeliveries.rows,
          d.eventId = ⟨t.addressId, t.stateVersion⟩
      · obtain ⟨d', hmem, he⟩ := he
        rw [insertDelivery_ignored hmem he] at hd
        exact hev d hd
      · push Not at he
        simp only [Db.setTotals, rows_insertDelivery he] at hd
        rcases List.mem_append.mp hd with hd | hd
        · exact hev d hd
        · rw [List.mem_singleton.mp hd]
          rfl
  next => exact hev

/-! ### The whole loop -/

/-- **What the loop does**: the addresses of a list without repetitions get one outcome each,
the others keep their rows. -/
lemma foldl_queueOne (now : Timestamp) {acc : List ℕ × Db} (hev : EventsNamed acc.2)
    {ids : List ℕ} (hids : ids.Nodup) :
    EventsNamed (ids.foldl (queueOne now) acc).2 ∧
    (ids.foldl (queueOne now) acc).2.issuedAddresses = acc.2.issuedAddresses ∧
    (∀ b ∉ ids, (ids.foldl (queueOne now) acc).2.addressTotals.find? b =
        acc.2.addressTotals.find? b ∧
      (ids.foldl (queueOne now) acc).2.deliveriesOf b = acc.2.deliveriesOf b) ∧
    ∀ b ∈ ids, acc.2.issued b → ∀ t, acc.2.addressTotals.find? b = some t →
      ∃ t', (ids.foldl (queueOne now) acc).2.addressTotals.find? b = some t' ∧
        QueueOutcome now t (acc.2.deliveriesOf b) t'
          ((ids.foldl (queueOne now) acc).2.deliveriesOf b) := by
  induction ids generalizing acc with
  | nil => exact ⟨hev, rfl, fun b _ => ⟨rfl, rfl⟩, by simp⟩
  | cons a ids ih =>
    obtain ⟨ha, hids⟩ := List.nodup_cons.mp hids
    obtain ⟨hev', hissued', hother, houtcome⟩ :=
      ih (queueOne_events now a hev) hids
    rw [List.foldl_cons]
    refine ⟨hev', hissued'.trans queueOne_issuedAddresses, fun b hb => ?_, fun b hb hi t ht => ?_⟩
    · rw [List.mem_cons, not_or] at hb
      obtain ⟨h1, h2⟩ := hother b hb.2
      obtain ⟨h3, h4⟩ := queueOne_of_ne now acc hb.1
      exact ⟨h1.trans h3, h2.trans h4⟩
    · by_cases hba : b = a
      · subst hba
        obtain ⟨t', ht', ho⟩ := queueOne_outcome now hev hi ht
        obtain ⟨h1, h2⟩ := hother b ha
        exact ⟨t', h1.trans ht', h2 ▸ ho⟩
      · obtain ⟨h3, h4⟩ := queueOne_of_ne now acc hba
        rw [← h4]
        refine houtcome b ((List.mem_cons.mp hb).resolve_left hba) ?_ t (h3.trans ht)
        rw [Db.issued, queueOne_issuedAddresses]
        exact hi

/-- One turn only adds rows, and the rows it adds are queued and were never attempted. -/
lemma queueOne_rows (now : Timestamp) (acc : List ℕ × Db) (a : ℕ) :
    ∃ new, (queueOne now acc a).2.webhookDeliveries.rows = acc.2.webhookDeliveries.rows ++ new ∧
      ∀ d ∈ new, d.deliveryState = .queued ∧ d.attemptCount = 0 := by
  unfold queueOne
  simp only
  split
  next issued t hissued ht =>
    split_ifs
    · exact ⟨[], by simp, by simp⟩
    · exact ⟨[], by simp [Db.setTotals], by simp⟩
    · exact ⟨[], by simp [Db.setTotals], by simp⟩
    · by_cases he : ∃ d ∈ acc.2.webhookDeliveries.rows,
          d.eventId = ⟨t.addressId, t.stateVersion⟩
      · obtain ⟨d, hmem, he⟩ := he
        rw [insertDelivery_ignored hmem he]
        exact ⟨[], by simp [Db.setTotals], by simp⟩
      · push Not at he
        refine ⟨[acc.2.nextDelivery issued.unifiedAddress t now], ?_, ?_⟩
        · simp only [Db.setTotals, rows_insertDelivery he]
        · simp [Db.nextDelivery, queuedDelivery]
  next => exact ⟨[], by simp, by simp⟩

lemma foldl_queueOne_rows (now : Timestamp) (acc : List ℕ × Db) (ids : List ℕ) :
    ∃ new, (ids.foldl (queueOne now) acc).2.webhookDeliveries.rows =
        acc.2.webhookDeliveries.rows ++ new ∧
      ∀ d ∈ new, d.deliveryState = .queued ∧ d.attemptCount = 0 := by
  induction ids generalizing acc with
  | nil => exact ⟨[], by simp, by simp⟩
  | cons a ids ih =>
    obtain ⟨new, hrows, hnew⟩ := queueOne_rows now acc a
    obtain ⟨new', hrows', hnew'⟩ := ih (queueOne now acc a)
    refine ⟨new ++ new', by rw [List.foldl_cons, hrows', hrows, List.append_assoc], ?_⟩
    intro d hd
    rcases List.mem_append.mp hd with hd | hd
    · exact hnew d hd
    · exact hnew' d hd

/-- The queue writes totals and deliveries only. -/
lemma queueOne_frame (now : Timestamp) (acc : List ℕ × Db) (a : ℕ) :
    ∃ totals deliveries, (queueOne now acc a).2 =
      { acc.2 with addressTotals := totals, webhookDeliveries := deliveries } := by
  unfold queueOne
  simp only
  split
  · split_ifs
    · exact ⟨_, _, rfl⟩
    · exact ⟨_, _, rfl⟩
    · exact ⟨_, _, rfl⟩
    · unfold Db.insertDelivery
      split_ifs <;> exact ⟨_, _, rfl⟩
  · exact ⟨_, _, rfl⟩

lemma foldl_queueOne_frame (now : Timestamp) (ids : List ℕ) (acc : List ℕ × Db) :
    ∃ totals deliveries, (ids.foldl (queueOne now) acc).2 =
      { acc.2 with addressTotals := totals, webhookDeliveries := deliveries } := by
  induction ids generalizing acc with
  | nil => exact ⟨_, _, rfl⟩
  | cons a ids ih =>
    obtain ⟨totals, deliveries, h⟩ := ih (queueOne now acc a)
    obtain ⟨totals', deliveries', h'⟩ := queueOne_frame now acc a
    exact ⟨totals, deliveries, by rw [List.foldl_cons, h, h']⟩

lemma queue_frame (now : Timestamp) (ids : List ℕ) (db : Db) :
    ∃ totals deliveries, (queueWebhookDeliveriesForDirtyAddresses now ids db).2 =
      { db with addressTotals := totals, webhookDeliveries := deliveries } := by
  unfold queueWebhookDeliveriesForDirtyAddresses
  split_ifs
  · exact ⟨_, _, rfl⟩
  · exact foldl_queueOne_frame now _ _

/-- Totals and issued addresses stay together. -/
lemma queueOne_kept (now : Timestamp) (a : ℕ) (h : acc.2.TotalsKept) :
    (queueOne now acc a).2.TotalsKept := by
  intro b
  rw [Db.issued, queueOne_issuedAddresses]
  rw [← Db.issued, ← h b]
  unfold queueOne
  simp only
  split
  · split_ifs <;> simp [find?_setTotals]
  · rfl

lemma foldl_queueOne_kept (now : Timestamp) (ids : List ℕ) (h : acc.2.TotalsKept) :
    (ids.foldl (queueOne now) acc).2.TotalsKept := by
  induction ids generalizing acc with
  | nil => exact h
  | cons a ids ih => exact ih (queueOne_kept now a h)

lemma nodup_idSet (ids : List ℕ) : (idSet ids).Nodup :=
  (List.perm_insertionSort _ _).nodup_iff.mpr (List.nodup_dedup ids)

end ZcashPayment

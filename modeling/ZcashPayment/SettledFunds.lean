import ZcashPayment.SessionRuns
import ZcashPayment.StatusAnswers

/-!
What a status answer says of the ledger.

The array of an address is computed with its totals, or it was never computed and the address has no
receipts. Either way the last amount of an answer is what the address has received with the required
confirmations, at the tip its totals were computed at.
-/

namespace ZcashPayment

variable {owner : ReceiptUid → ℕ} {db db' : Db} {settings : SessionSettings}
  {cutoffOf : Timestamp → Except AppError Timestamp} {parse : UriParser} {finality : ℕ}
  {now createdAt : Timestamp} {ids : List ℕ} {required : Option ℕ} {s : Sessions}

/-! ### Arrays -/

/-- The array of a row of totals is that of the receipts, or it was never computed. -/
def ArrayKept (required : Option ℕ) (rows : List ReceiptRow) (t : AddressTotals) : Prop :=
  t.receivedByConfirmations =
      receivedByConfirmationsZat rows t.addressId t.lastComputedTipHeight required ∨
    t.receivedByConfirmations = none ∧ view rows t.addressId = []

structure ArraysKept (required : Option ℕ) (db : Db) : Prop where
  stored : db.storedRequiredConfirmations = required
  array : ∀ t ∈ db.addressTotals.rows, ArrayKept required db.receipts.rows t

namespace ArraysKept

variable (cutoffOf) in
lemma operation {op : LedgerOp} (hk : ArraysKept required db) (hl : TotalsCurrent owner db)
    (ho : OwnedReceipts owner op.receipts)
    (h : op.run cutoffOf finality now db = .ok (ids, db')) : ArraysKept required db' := by
  obtain ⟨p, label, hs, -, hc⟩ := op.run_ok h
  have hp := hs owner hl.owned ho
  rw [Pending.commit_ok hc]
  refine ⟨hk.stored, fun t ht => ?_⟩
  obtain ⟨t₀, ht₀, rfl⟩ := List.mem_map.mp ht
  by_cases ha : t₀.addressId ∈ p.affected
  · rw [Pending.retotaled, if_pos ha]
    exact .inl (by rw [← hk.stored]; rfl)
  · rw [Pending.retotaled_of_notMem ha, ArrayKept, hp.unseen _ ha,
      receivedByConfirmationsZat_congr (hp.unseen _ ha)]
    exact hk.array t₀ ht₀

lemma queue (hk : ArraysKept required db) (now : Timestamp) (ids : List ℕ) :
    ArraysKept required (queueWebhookDeliveriesForDirtyAddresses now ids db).2 := by
  have hsame := queue_sameLedger now ids db
  refine ⟨hsame.required.trans hk.stored, fun t ht => ?_⟩
  obtain ⟨t₀, ht₀, heq⟩ := hsame.mem ht
  simp only [AddressTotals.ledger, Prod.mk.injEq] at heq
  obtain ⟨ha, -, -, -, hT, hl⟩ := heq
  have := hk.array t₀ ht₀
  rwa [ArrayKept, ha, hT, hl, ← hsame.receipts] at this

lemma allocate {new : NewAddress} {a : ℕ} (hk : ArraysKept required db)
    (hl : TotalsCurrent owner db) (h : allocateFreshAddress new createdAt db = .ok (a, db')) :
    ArraysKept required db' := by
  obtain ⟨hi, ht, rfl⟩ := allocateFreshAddress_ok h
  refine ⟨hk.stored, fun t ht' => ?_⟩
  rcases List.mem_append.mp ht' with ht' | ht'
  · exact hk.array t ht'
  · rw [List.mem_singleton.mp ht']
    exact .inr ⟨rfl, hl.view_eq_nil hi⟩

lemma start (config : Config) : ArraysKept config.requiredConfirmations (startDb config "" []) := by
  simp only [startDb, issueAll, List.foldl_nil, ensureServiceMetadata, ensureServiceMetadataRow,
    Db.fresh, bind, Except.bind, pure, Except.pure]
  unfold applyRequiredConfirmations
  split_ifs with h
  · exact ⟨h, fun t ht => absurd ht (by simp)⟩
  · exact ⟨rfl, fun t ht => absurd ht (by simp)⟩

end ArraysKept

/-! ### The runs of a service -/

/-- The rows of the sessions, and the arrays. -/
structure ServiceKept (parse : UriParser) (settings : SessionSettings) (owner : ReceiptUid → ℕ)
    (s : Sessions) : Prop extends SessionsKept parse settings owner s where
  arrays : ArraysKept settings.requiredConfirmations s.store.db

namespace ServiceKept

lemma arrays_step (hk : ServiceKept parse settings owner s) (ho : OwnsSimulated owner)
    {event : SessionEvent} (he : event.Owned owner) :
    ArraysKept settings.requiredConfirmations
      (s.step parse settings cutoffOf event).store.db := by
  cases event with
  | mint request new createdAt =>
    unfold Sessions.step
    dsimp only
    split
    · exact hk.arrays
    · split
      · exact hk.arrays
      · next h =>
        obtain ⟨⟨a', db⟩, halloc, h⟩ := bind_ok h
        cases h
        exact hk.arrays.allocate hk.totals halloc
  | finish i bytes createdAt =>
    unfold Sessions.step
    dsimp only
    split
    · exact hk.arrays
    · next call hcall =>
      have hmem : call ∈ s.calls := List.mem_of_getElem? hcall
      rcases hk.finish_eq hmem bytes createdAt with ⟨-, h⟩ | ⟨-, e, h⟩ <;> rw [h] <;>
        exact hk.arrays
  | abandon i => exact hk.arrays
  | simulate request random now =>
    obtain ⟨simulatedData, db, hstore, hdb⟩ :=
      simulatePayment_db settings request random now s.store
    have hkept : ArraysKept settings.requiredConfirmations db := by
      rcases hdb with ⟨-, rfl⟩ | ⟨answer, txidHex, valueZat, record, affected, db₁, -, -, -, h, rfl⟩
      · exact hk.arrays
      · have howned : OwnedReceipts owner (LedgerOp.applyAttributedReceipts
            [simulatedReceipt settings.webhookReportConfirmations txidHex record.addressId valueZat
              request.confirmations now] simulatedTipHeight).receipts := by
          intro e he
          rw [List.mem_singleton.mp he]
          exact (ho txidHex record.addressId).symm
        exact (hk.arrays.operation cutoffOf hk.totals howned h).queue now affected
    unfold Sessions.step
    dsimp only
    split
    all_goals
      next heq =>
        rw [heq] at hstore
        obtain rfl : _ = _ := hstore
        exact hkept
  | ledger finality now op =>
    show ArraysKept settings.requiredConfirmations
      (LedgerOp.step cutoffOf finality s.store.db (now, op))
    unfold LedgerOp.step
    split
    · next h => exact hk.arrays.operation cutoffOf hk.totals he h
    · exact hk.arrays
  | queue now ids => exact hk.arrays.queue now ids

lemma step (hk : ServiceKept parse settings owner s) (ho : OwnsSimulated owner)
    {event : SessionEvent} (he : event.Owned owner) :
    ServiceKept parse settings owner (s.step parse settings cutoffOf event) :=
  ⟨hk.toSessionsKept.step ho he, hk.arrays_step ho he⟩

lemma start (parse : UriParser) (settings : SessionSettings) (owner : ReceiptUid → ℕ)
    {config : Config} (h : config.requiredConfirmations = settings.requiredConfirmations) :
    ServiceKept parse settings owner (Sessions.start config) :=
  ⟨.start parse settings owner config, h ▸ ArraysKept.start config⟩

end ServiceKept

/-- What an address has received with the required confirmations, at the tip its totals were
computed at. -/
def Sessions.settledZat (settings : SessionSettings) (s : Sessions) (addressId : ℕ) : ℤ :=
  let rows := s.store.db.receipts.rows
  match settings.requiredConfirmations, s.store.db.addressTotals.find? addressId with
  | some required, some totals =>
    receivedAtDepth rows addressId totals.lastComputedTipHeight required
  | _, _ => eligibleTotalZat rows addressId

/-- **The amounts of an answer are in the ledger.** -/
lemma ServiceKept.findPaymentLink (hk : ServiceKept parse settings owner s) {i : IssuedSession}
    (hi : i ∈ s.issued) : ∃ record,
    s.store.findPaymentLink i.response.paymentId = some record ∧
      record.unifiedAddress = i.response.address ∧
      settings.toLinkSettings.settledZat record = s.settledZat settings i.call.addressId ∧
      record.currentTotalZat = eligibleTotalZat s.store.db.receipts.rows i.call.addressId := by
  obtain ⟨record, hfind, hd⟩ := hk.toSessionsKept.findPaymentLink hi
  obtain ⟨t, ht, -, harray⟩ := hd.totals
  refine ⟨record, hfind, hd.unifiedAddress, ?_, hd.total⟩
  have hkey : t.addressId = i.call.addressId := Table.key_of_find? ht
  have hkept := hk.arrays.array t (Table.mem_of_find? ht)
  unfold LinkSettings.settledZat LinkSettings.depthsOf Sessions.settledZat
  rw [ht, harray, hd.total]
  rcases hrequired : settings.requiredConfirmations with _ | required
  · rfl
  rw [ArrayKept, hrequired, hkey] at hkept
  dsimp only
  rcases hkept with h | ⟨h, hview⟩
  · rw [h, receivedByConfirmationsZat_eq]
    simp [settledOf, List.range_succ]
  · have hzero : receivedAtDepth s.store.db.receipts.rows i.call.addressId
        t.lastComputedTipHeight required = 0 := by
      have hnil : view s.store.db.receipts.rows i.call.addressId =
          view [] i.call.addressId := hview
      rw [receivedAtDepth_congr hnil]
      rfl
    rw [h, hzero]
    simp [settledOf, List.replicate_succ']

end ZcashPayment

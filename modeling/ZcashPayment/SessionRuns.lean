import ZcashPayment.PaymentSessions

/-!
What a session answers, in every run of a service.

A call stores its address and its request in one transaction and its link in another, so the
invariant speaks of both: what an open call has stored, and what an answered one has. No other
write touches these rows, and the totals of every address stay those of its receipts.
-/

namespace ZcashPayment

open Allocation (hexString)

variable {owner : ReceiptUid → ℕ} {db db' : Db} {settings : SessionSettings}
  {cutoffOf : Timestamp → Except AppError Timestamp} {parse : UriParser} {finality : ℕ}
  {now createdAt : Timestamp} {ids : List ℕ}

/-! ### The ledger -/

/-- The current totals are right, whatever the finality of the operations that computed them, and
no two addresses have the same text. -/
structure TotalsCurrent (owner : ReceiptUid → ℕ) (db : Db) : Prop where
  owned : Owned owner db.receipts
  kept : db.TotalsKept
  current : ∀ t ∈ db.addressTotals.rows,
    t.currentTotalZat = eligibleTotalZat db.receipts.rows t.addressId
  issued : ∀ r ∈ db.receipts.rows, db.issued r.addressId = true
  unified : (db.issuedAddresses.rows.map IssuedAddress.unifiedAddress).Nodup

namespace TotalsCurrent

lemma commit {p : Pending} {tip : ℤ} {label : String} (hk : TotalsCurrent owner db)
    (hp : p.Sound owner db) (hc : p.commit tip finality now label db = .ok db') :
    TotalsCurrent owner db' := by
  refine ⟨?_, commit_kept hk.kept hc, fun t ht => ?_, fun r hr => ?_, ?_⟩
  · rw [Pending.commit_ok hc]
    exact hp.owned
  · rw [Pending.commit_ok hc] at ht ⊢
    obtain ⟨t₀, ht₀, rfl⟩ := List.mem_map.mp ht
    by_cases ha : t₀.addressId ∈ p.affected
    · rw [Pending.retotaled, if_pos ha]
      rfl
    · rw [Pending.retotaled_of_notMem ha, hk.current t₀ ht₀]
      exact (eligibleTotalZat_congr (hp.unseen _ ha)).symm
  · rw [Pending.commit_ok hc] at hr ⊢
    by_cases ha : r.addressId ∈ p.affected
    · exact (hk.kept _).symm.trans (Pending.commit_issued hc ha)
    · have hview : ∃ r' ∈ db.receipts.rows, r'.addressId = r.addressId := by
        by_contra hn
        exact view_eq_nil_iff.mp ((hp.unseen _ ha).trans (view_eq_nil_iff.mpr hn)) ⟨r, hr, rfl⟩
      obtain ⟨r', hr', heq⟩ := hview
      exact heq ▸ hk.issued r' hr'
  · rw [Pending.commit_ok hc]
    exact hk.unified

variable (cutoffOf) in
lemma operation {op : LedgerOp} (hk : TotalsCurrent owner db) (ho : OwnedReceipts owner op.receipts)
    (h : op.run cutoffOf finality now db = .ok (ids, db')) :
    TotalsCurrent owner db' ∧ db'.issuedAddresses = db.issuedAddresses := by
  obtain ⟨p, label, hs, -, hc⟩ := op.run_ok h
  refine ⟨hk.commit (hs owner hk.owned ho) hc, ?_⟩
  rw [Pending.commit_ok hc]

lemma queue (hk : TotalsCurrent owner db) (now : Timestamp) (ids : List ℕ) :
    TotalsCurrent owner (queueWebhookDeliveriesForDirtyAddresses now ids db).2 ∧
      (queueWebhookDeliveriesForDirtyAddresses now ids db).2.issuedAddresses
        = db.issuedAddresses := by
  have hsame := queue_sameLedger now ids db
  refine ⟨⟨hsame.receipts ▸ hk.owned, queue_kept now ids hk.kept, fun t ht => ?_, fun r hr => ?_,
    ?_⟩, hsame.issuedAddresses⟩
  · obtain ⟨t₀, ht₀, heq⟩ := hsame.mem ht
    simp only [AddressTotals.ledger, Prod.mk.injEq] at heq
    rw [← heq.1, ← heq.2.1, hk.current t₀ ht₀, hsame.receipts]
  · rw [Db.issued, hsame.issuedAddresses]
    exact hk.issued r (hsame.receipts ▸ hr)
  · rw [hsame.issuedAddresses]
    exact hk.unified

/-- An address that is not issued has no receipts. -/
lemma view_eq_nil {a : ℕ} (hk : TotalsCurrent owner db)
    (hi : a ∉ db.issuedAddresses.rows.map IssuedAddress.addressId) :
    view db.receipts.rows a = [] := by
  refine view_eq_nil_iff.mpr fun h => ?_
  obtain ⟨r, hr, heq⟩ := h
  have hissued := hk.issued r hr
  rw [heq, Db.issued, Option.isSome_iff_exists] at hissued
  obtain ⟨x, hx⟩ := hissued
  exact hi (List.mem_map.mpr ⟨x, Table.mem_of_find? hx, Table.key_of_find? hx⟩)

/-- Issuing an address refuses a text that is there. -/
lemma allocate {new : NewAddress} {a : ℕ} (hk : TotalsCurrent owner db)
    (h : allocateFreshAddress new createdAt db = .ok (a, db')) : TotalsCurrent owner db' := by
  have htotals := allocateFreshAddress_kept hk.kept h
  have hfresh : new.unifiedAddress ∉ db.issuedAddresses.rows.map IssuedAddress.unifiedAddress := by
    intro hmem
    obtain ⟨row, hrow, heq⟩ := List.mem_map.mp hmem
    have hany : (db.issuedAddresses.rows.any fun row =>
        row.unifiedAddress = new.unifiedAddress) = true :=
      List.any_eq_true.mpr ⟨row, hrow, by simpa using heq⟩
    rw [allocateFreshAddress, if_pos hany] at h
    cases h
  obtain ⟨hi, ht, rfl⟩ := allocateFreshAddress_ok h
  refine ⟨hk.owned, htotals, fun t ht' => ?_, fun r hr => ?_, ?_⟩
  · rcases List.mem_append.mp ht' with ht' | ht'
    · exact hk.current t ht'
    · rw [List.mem_singleton.mp ht']
      have hview : view db.receipts.rows a = view [] a := hk.view_eq_nil hi
      exact (eligibleTotalZat_congr hview).symm
  · rw [Db.issued, Table.find?_insert]
    split_ifs
    · rfl
    · exact hk.issued r hr
  · show ((db.issuedAddresses.rows ++ [_]).map _).Nodup
    rw [List.map_append]
    exact hk.unified.append (List.nodup_singleton _) (by simpa using hfresh)

lemma start (owner : ReceiptUid → ℕ) (config : Config) :
    TotalsCurrent owner (startDb config "" []) := by
  obtain ⟨hinv, hrows⟩ := startDb_inv owner config 0 "" []
  refine ⟨hinv.owned, hinv.kept, fun t ht => (hinv.right t ht).current, fun r hr => ?_, ?_⟩
  · rw [hrows] at hr
    cases hr
  · have : (startDb config "" []).issuedAddresses = .empty := by
      simp only [startDb, issueAll, List.foldl_nil, ensureServiceMetadata, ensureServiceMetadataRow,
        Db.fresh, bind, Except.bind, pure, Except.pure]
      unfold applyRequiredConfirmations
      split_ifs <;> rfl
    rw [this]
    exact List.nodup_nil

/-- The total of an issued address. -/
lemma find? {a : ℕ} (hk : TotalsCurrent owner db) (ha : db.issued a = true) :
    ∃ t, db.addressTotals.find? a = some t ∧
      t.currentTotalZat = eligibleTotalZat db.receipts.rows a := by
  obtain ⟨t, ht⟩ := Option.isSome_iff_exists.mp ((hk.kept a).trans ha)
  exact ⟨t, ht, Table.key_of_find? ht ▸ hk.current t (Table.mem_of_find? ht)⟩

end TotalsCurrent

/-! ### Payment ids -/

lemma isPaymentId_newPaymentId (bytes : Fin 16 → UInt8) :
    isPaymentId (newPaymentId bytes) = true := by
  have hdigit : ∀ n < 16, (lowerHexDigit n).utf8Size = 1 ∧ ((lowerHexDigit n).isDigit ||
      ('a' ≤ lowerHexDigit n && lowerHexDigit n ≤ 'f')) = true := by decide
  have hbyte : ∀ byte : UInt8, byte.toNat / 16 < 16 ∧ byte.toNat % 16 < 16 := fun byte => by
    have := byte.toNat_lt
    omega
  have hlen : ∀ l : List UInt8, byteLen (hexString l).toList = 2 * l.length := by
    intro l
    rw [hexString, String.toList_ofList]
    induction l with
    | nil => rfl
    | cons byte l ih =>
      simp only [byteLen, List.flatMap_cons, List.map_append, List.sum_append, List.map_cons,
        List.map_nil, List.sum_cons, List.sum_nil, List.length_cons] at ih ⊢
      rw [ih, (hdigit _ (hbyte byte).1).1, (hdigit _ (hbyte byte).2).1]
      omega
  rw [isPaymentId, Bool.and_eq_true, newPaymentId, hlen, List.length_ofFn]
  refine ⟨rfl, List.all_eq_true.mpr fun c hc => ?_⟩
  rw [hexString, String.toList_ofList, List.mem_flatMap] at hc
  obtain ⟨byte, -, hc⟩ := hc
  rcases List.mem_cons.mp hc with rfl | hc
  · exact (hdigit _ (hbyte byte).1).2
  · rw [List.mem_singleton.mp hc]
    exact (hdigit _ (hbyte byte).2).2

/-! ### What a call has stored -/

/-- The rows a call stored for its address. -/
structure OpenSession.Stored (parse : UriParser) (settings : SessionSettings) (s : SessionStore)
    (call : OpenSession) : Prop where
  checked : checkSession parse settings call.request = .ok call.returnUrl
  address : s.db.issuedAddresses.find? call.addressId = some ⟨call.addressId, call.address⟩
  request : s.requests.find? (fun r => r.addressId = call.addressId) = some {
    addressId := call.addressId
    requestLabel := call.request.label
    requestMemo := call.request.memo
    requestMessage := call.request.message
    requestedAmount := call.request.amount }

/-- What the answer says of a call. -/
structure IssuedSession.Answers (settings : SessionSettings) (i : IssuedSession) : Prop where
  address : i.response.address = i.call.address
  qrText : i.response.qrText =
    buildQrText i.call.address i.call.request.amount i.call.request.memo i.call.request.message
  payUrl : i.response.payUrl = settings.payUrl i.response.paymentId
  paymentId : isPaymentId i.response.paymentId = true

/-- What the link of a session is kept under, and where it leads. -/
def IssuedSession.key (i : IssuedSession) : String × ℕ × Option String :=
  (i.response.paymentId, i.call.addressId, i.call.returnUrl)

def PaymentLink.key (l : PaymentLink) : String × ℕ × Option String :=
  (l.paymentId, l.addressId, l.returnUrl)

/-- Every call that got its address, answered or not. -/
def Sessions.minted (s : Sessions) : List OpenSession := s.calls ++ s.issued.map (·.call)

structure SessionsKept (parse : UriParser) (settings : SessionSettings) (owner : ReceiptUid → ℕ)
    (s : Sessions) : Prop where
  totals : TotalsCurrent owner s.store.db
  requests : ∀ r ∈ s.store.requests, s.store.db.issued r.addressId = true
  stored : ∀ call ∈ s.minted, call.Stored parse settings s.store
  apart : (s.minted.map (·.addressId)).Nodup
  answers : ∀ i ∈ s.issued, i.Answers settings
  links : s.store.paymentLinks.map PaymentLink.key = s.issued.map IssuedSession.key
  ids : (s.store.paymentLinks.map (·.paymentId)).Nodup

namespace SessionsKept

variable {s : Sessions}

/-- A step that leaves the tables of the sessions alone. -/
lemma ledger (hk : SessionsKept parse settings owner s) {db : Db} (reports : List Report)
    (simulatedData : Bool) (hdb : TotalsCurrent owner db)
    (hissued : db.issuedAddresses = s.store.db.issuedAddresses) :
    SessionsKept parse settings owner
      { s with store := { s.store with db, simulatedData }, reports } where
  totals := hdb
  requests r hr := by
    rw [Db.issued, hissued]
    exact hk.requests r hr
  stored call hcall := by
    have := hk.stored call hcall
    exact ⟨this.checked, hissued ▸ this.address, this.request⟩
  apart := hk.apart
  answers := hk.answers
  links := hk.links
  ids := hk.ids

lemma abandon (hk : SessionsKept parse settings owner s) (i : ℕ) :
    SessionsKept parse settings owner { s with calls := s.calls.eraseIdx i } where
  totals := hk.totals
  requests := hk.requests
  stored call hcall := by
    refine hk.stored call ?_
    rcases List.mem_append.mp hcall with h | h
    · exact List.mem_append_left _ (List.mem_of_mem_eraseIdx h)
    · exact List.mem_append_right _ h
  apart := hk.apart.sublist (((List.eraseIdx_sublist _ _).append (List.Sublist.refl _)).map _)
  answers := hk.answers
  links := hk.links
  ids := hk.ids

/-- The addresses of the calls are issued. -/
lemma issued_of_minted (hk : SessionsKept parse settings owner s) {call : OpenSession}
    (hcall : call ∈ s.minted) : s.store.db.issued call.addressId = true := by
  rw [Db.issued, (hk.stored call hcall).address]
  rfl

/-- **A call gets its address**: no other call has it, and what the others stored is found as
before. -/
lemma mint (hk : SessionsKept parse settings owner s) {request : PaymentSessionRequest}
    {returnUrl : Option String} {new : NewAddress} {a : ℕ} {address : String}
    {store : SessionStore} (hc : checkSession parse settings request = .ok returnUrl)
    (h : s.store.mintAddress request new createdAt = .ok ((a, address), store)) :
    SessionsKept parse settings owner
      { s with store, calls := s.calls ++ [⟨request, returnUrl, a, address⟩] } := by
  obtain ⟨⟨a', db⟩, halloc, h⟩ := bind_ok h
  cases h
  have htotals := hk.totals.allocate halloc
  obtain ⟨hi, ht, rfl⟩ := allocateFreshAddress_ok halloc
  have hfresh : s.store.db.issued a = false := by
    rw [Db.issued, Table.find?_eq_none_iff.mpr hi]
    rfl
  have hnot : ∀ call ∈ s.minted, call.addressId ≠ a := by
    rintro call hcall rfl
    rw [hk.issued_of_minted hcall] at hfresh
    cases hfresh
  have hmem : ∀ call : OpenSession,
      call ∈ (s.calls ++ [⟨request, returnUrl, a, new.unifiedAddress⟩]) ++ s.issued.map (·.call) ↔
        call ∈ s.minted ∨ call = ⟨request, returnUrl, a, new.unifiedAddress⟩ := by
    intro call
    simp only [Sessions.minted, List.mem_append, List.mem_singleton]
    tauto
  refine ⟨htotals, fun r hr => ?_, fun call hcall => ?_, ?_, hk.answers, hk.links, hk.ids⟩
  · rw [Db.issued, Table.find?_insert]
    rcases List.mem_append.mp hr with hr | hr
    · split_ifs
      · rfl
      · exact hk.requests r hr
    · rw [List.mem_singleton.mp hr, if_pos rfl]
      rfl
  · rcases (hmem call).mp hcall with hcall | rfl
    · have hold := hk.stored call hcall
      refine ⟨hold.checked, ?_, ?_⟩
      · rw [Table.find?_insert, if_neg (hnot call hcall)]
        exact hold.address
      · rw [List.find?_append, hold.request]
        rfl
    · refine ⟨hc, ?_, ?_⟩
      · rw [Table.find?_insert, if_pos rfl]
      · have hnone : (s.store.requests.find? fun r => r.addressId = a) = none := by
          refine List.find?_eq_none.mpr fun r hr heq => ?_
          rw [decide_eq_true_eq] at heq
          have := hk.requests r hr
          rw [heq, hfresh] at this
          cases this
        rw [List.find?_append, hnone]
        simp
  · have hperm : ((s.calls ++ [(⟨request, returnUrl, a, new.unifiedAddress⟩ : OpenSession)]) ++
        s.issued.map (·.call)).Perm (⟨request, returnUrl, a, new.unifiedAddress⟩ :: s.minted) := by
      rw [List.append_assoc]
      exact List.perm_middle
    refine (hperm.map _).nodup_iff.mpr (List.nodup_cons.mpr ⟨?_, hk.apart⟩)
    intro hmem
    obtain ⟨call, hcall, heq⟩ := List.mem_map.mp hmem
    exact hnot call hcall heq

/-- The links are those of the answered calls, so an open call has none. -/
lemma unlinked (hk : SessionsKept parse settings owner s) {call : OpenSession}
    (hcall : call ∈ s.calls) : ∀ l ∈ s.store.paymentLinks, l.addressId ≠ call.addressId := by
  intro l hl heq
  have hkey : l.key ∈ s.issued.map IssuedSession.key := hk.links ▸ List.mem_map_of_mem hl
  obtain ⟨i, hi, hkey⟩ := List.mem_map.mp hkey
  have hid : i.call.addressId = call.addressId := by
    have := congrArg (fun k : String × ℕ × Option String => k.2.1) hkey
    exact this.trans heq
  have hapart := hk.apart
  rw [Sessions.minted, List.map_append] at hapart
  exact (List.disjoint_of_nodup_append hapart) (List.mem_map_of_mem hcall)
    (List.mem_map.mpr ⟨i.call, List.mem_map_of_mem hi, hid⟩)

lemma insertPaymentLink_taken {store : SessionStore} (link : PaymentLink)
    (h : link.paymentId ∈ store.paymentLinks.map (·.paymentId)) :
    ∃ e, store.insertPaymentLink link = .error e := by
  obtain ⟨l, hl, heq⟩ := List.mem_map.mp h
  exact ⟨_, if_pos (List.any_eq_true.mpr ⟨l, hl, by simpa using heq⟩)⟩

lemma insertPaymentLink_new {store : SessionStore} (link : PaymentLink)
    (h : link.paymentId ∉ store.paymentLinks.map (·.paymentId))
    (ha : ∀ l ∈ store.paymentLinks, l.addressId ≠ link.addressId)
    (hi : store.db.issued link.addressId = true) :
    store.insertPaymentLink link =
      .ok { store with paymentLinks := store.paymentLinks ++ [link] } := by
  have hid : (store.paymentLinks.any fun l => l.paymentId = link.paymentId) = false :=
    List.any_eq_false.mpr fun l hl => by simpa using fun heq => h (List.mem_map.mpr ⟨l, hl, heq⟩)
  have haddress : (store.paymentLinks.any fun l => l.addressId = link.addressId) = false :=
    List.any_eq_false.mpr fun l hl => by simpa using ha l hl
  unfold SessionStore.insertPaymentLink
  rw [hid, haddress, hi]
  rfl

/-- **A call makes its link** unless it drew an id that is taken. -/
lemma finish_eq (hk : SessionsKept parse settings owner s) {call : OpenSession}
    (hcall : call ∈ s.calls) (bytes : Fin 16 → UInt8) (createdAt : Timestamp) :
    newPaymentId bytes ∉ s.store.paymentLinks.map (·.paymentId) ∧
      call.finish settings bytes createdAt s.store =
        .ok (call.answer settings (newPaymentId bytes), { s.store with
          paymentLinks := s.store.paymentLinks ++
            [⟨newPaymentId bytes, call.addressId, call.returnUrl, createdAt⟩] }) ∨
    newPaymentId bytes ∈ s.store.paymentLinks.map (·.paymentId) ∧
      ∃ e, call.finish settings bytes createdAt s.store = .error e := by
  by_cases hid : newPaymentId bytes ∈ s.store.paymentLinks.map (·.paymentId)
  · obtain ⟨e, he⟩ := insertPaymentLink_taken
      ⟨newPaymentId bytes, call.addressId, call.returnUrl, createdAt⟩ hid
    refine .inr ⟨hid, e, ?_⟩
    unfold OpenSession.finish
    dsimp only
    rw [he]
    rfl
  · have hnew := insertPaymentLink_new
      ⟨newPaymentId bytes, call.addressId, call.returnUrl, createdAt⟩ hid
      (hk.unlinked hcall) (hk.issued_of_minted (List.mem_append_left _ hcall))
    refine .inl ⟨hid, ?_⟩
    unfold OpenSession.finish
    dsimp only
    rw [hnew]
    rfl

lemma finish (hk : SessionsKept parse settings owner s) (i : ℕ) (bytes : Fin 16 → UInt8)
    (createdAt : Timestamp) : SessionsKept parse settings owner
      (s.step parse settings cutoffOf (.finish i bytes createdAt)) := by
  unfold Sessions.step
  dsimp only
  rcases hcall : s.calls[i]? with _ | call
  · exact hk
  dsimp only
  obtain ⟨hlt, hget⟩ := List.getElem?_eq_some_iff.mp hcall
  have hmem : call ∈ s.calls := hget ▸ List.getElem_mem hlt
  rcases hk.finish_eq hmem bytes createdAt with ⟨hnew, h⟩ | ⟨-, e, h⟩
  swap
  · rw [h]
    exact hk.abandon i
  rw [h]
  dsimp only
  -- The call moves from the open ones to the answered ones.
  have hperm : ((s.calls.eraseIdx i) ++ (s.issued ++
      [(⟨call, call.answer settings (newPaymentId bytes)⟩ : IssuedSession)]).map (·.call)).Perm
        s.minted := by
    have herase : (call :: s.calls.eraseIdx i).Perm s.calls :=
      hget ▸ List.getElem_cons_eraseIdx_perm hlt
    rw [List.map_append, ← List.append_assoc]
    refine (List.perm_append_singleton _ _).trans ?_
    exact herase.append_right _
  refine ⟨hk.totals, hk.requests, fun c hc => ?_, (hperm.map _).nodup_iff.mpr hk.apart,
    fun j hj => ?_, ?_, ?_⟩
  · have := hk.stored c (hperm.mem_iff.mp hc)
    exact ⟨this.checked, this.address, this.request⟩
  · rcases List.mem_append.mp hj with hj | hj
    · exact hk.answers j hj
    · rw [List.mem_singleton.mp hj]
      exact ⟨rfl, rfl, rfl, isPaymentId_newPaymentId bytes⟩
  · rw [List.map_append, List.map_append, hk.links]
    rfl
  · rw [List.map_append]
    exact hk.ids.append (List.nodup_singleton _) (by simpa using hnew)

end SessionsKept

/-! ### Simulated payments -/

/-- What a simulated payment does to the database: nothing, or an operation and the queue. -/
lemma simulatePayment_db (settings : SessionSettings) (request : SimulatePaymentRequest)
    (random : Fin 32 → UInt8) (now : Timestamp) (s : SessionStore) :
    ∃ simulatedData db, (simulatePayment settings request random now s).2 =
        { s with db, simulatedData } ∧
      ((∃ e, (simulatePayment settings request random now s).1 = .error e) ∧ db = s.db ∨
        ∃ answer txidHex valueZat record affected db₁,
          (simulatePayment settings request random now s).1 = .ok (answer,
            ⟨txidHex, record.addressId, valueZat, request.confirmations⟩) ∧
          s.findIssuedAddress request.address = some record ∧ 0 < valueZat ∧
          applyAttributedReceipts [simulatedReceipt settings.webhookReportConfirmations txidHex
            record.addressId valueZat request.confirmations now] simulatedTipHeight u32Max now s.db
            = .ok (affected, db₁) ∧
          db = (queueWebhookDeliveriesForDirtyAddresses now affected db₁).2) := by
  unfold simulatePayment
  split
  · exact ⟨_, _, rfl, .inl ⟨⟨_, rfl⟩, rfl⟩⟩
  split
  · exact ⟨_, _, rfl, .inl ⟨⟨_, rfl⟩, rfl⟩⟩
  next valueZat hvalue =>
  split
  · exact ⟨_, _, rfl, .inl ⟨⟨_, rfl⟩, rfl⟩⟩
  next record hrecord =>
  dsimp only
  split
  · exact ⟨_, _, rfl, .inl ⟨⟨_, rfl⟩, rfl⟩⟩
  next txidHex _ =>
  split
  · exact ⟨_, _, rfl, .inl ⟨⟨_, rfl⟩, rfl⟩⟩
  next affected db₁ happly =>
  have hpos : 0 < valueZat := by
    have := (Option.filter_eq_some_iff.mp hvalue).2
    simpa using this
  exact ⟨_, _, rfl, .inr ⟨_, txidHex, valueZat, record, affected, db₁, rfl, hrecord, hpos, happly,
    rfl⟩⟩

/-- Each simulated uid is at its address. -/
def OwnsSimulated (owner : ReceiptUid → ℕ) : Prop :=
  ∀ txidHex a, owner (simulatedUid txidHex a) = a

/-- The receipts a step hands to the ledger are at their addresses. -/
def SessionEvent.Owned (owner : ReceiptUid → ℕ) : SessionEvent → Prop
  | .ledger _ _ op => OwnedReceipts owner op.receipts
  | _ => True

namespace SessionsKept

variable {s : Sessions}

lemma simulate (hk : SessionsKept parse settings owner s) (ho : OwnsSimulated owner)
    (request : SimulatePaymentRequest) (random : Fin 32 → UInt8) (now : Timestamp) :
    SessionsKept parse settings owner
      (s.step parse settings cutoffOf (.simulate request random now)) := by
  obtain ⟨simulatedData, db, hstore, hdb⟩ := simulatePayment_db settings request random now s.store
  have hkept : TotalsCurrent owner db ∧ db.issuedAddresses = s.store.db.issuedAddresses := by
    rcases hdb with ⟨-, rfl⟩ | ⟨answer, txidHex, valueZat, record, affected, db₁, -, -, -, h, rfl⟩
    · exact ⟨hk.totals, rfl⟩
    · have howned : OwnedReceipts owner (LedgerOp.applyAttributedReceipts
          [simulatedReceipt settings.webhookReportConfirmations txidHex record.addressId valueZat
            request.confirmations now] simulatedTipHeight).receipts := by
        intro e he
        rw [List.mem_singleton.mp he]
        exact (ho txidHex record.addressId).symm
      obtain ⟨h₁, hi₁⟩ := hk.totals.operation cutoffOf howned h
      obtain ⟨h₂, hi₂⟩ := h₁.queue now affected
      exact ⟨h₂, hi₂.trans hi₁⟩
  unfold Sessions.step
  dsimp only
  split
  · next heq =>
    rw [heq] at hstore
    obtain rfl : _ = _ := hstore
    exact hk.ledger s.reports simulatedData hkept.1 hkept.2
  · next heq =>
    rw [heq] at hstore
    obtain rfl : _ = _ := hstore
    exact hk.ledger _ simulatedData hkept.1 hkept.2

lemma step (hk : SessionsKept parse settings owner s) (ho : OwnsSimulated owner)
    {event : SessionEvent} (he : event.Owned owner) :
    SessionsKept parse settings owner (s.step parse settings cutoffOf event) := by
  cases event with
  | mint request new createdAt =>
    unfold Sessions.step
    dsimp only
    split
    · exact hk
    · next hc =>
      split
      · exact hk
      · next h => exact hk.mint hc h
  | finish i bytes createdAt => exact hk.finish i bytes createdAt
  | abandon i => exact hk.abandon i
  | simulate request random now => exact hk.simulate ho request random now
  | ledger finality now op =>
    refine hk.ledger s.reports s.store.simulatedData ?_ ?_ <;> unfold LedgerOp.step <;> split
    · next h => exact (hk.totals.operation cutoffOf he h).1
    · exact hk.totals
    · next h => exact (hk.totals.operation cutoffOf he h).2
    · rfl
  | queue now ids =>
    exact hk.ledger s.reports s.store.simulatedData (hk.totals.queue now ids).1
      (hk.totals.queue now ids).2

lemma run (hk : SessionsKept parse settings owner s) (ho : OwnsSimulated owner)
    {events : List SessionEvent} (he : ∀ e ∈ events, e.Owned owner) :
    SessionsKept parse settings owner (s.run parse settings cutoffOf events) := by
  induction events generalizing s with
  | nil => exact hk
  | cons e events ih =>
    exact ih (hk.step ho (he e List.mem_cons_self)) fun e' he' => he e' (List.mem_cons_of_mem e he')

lemma start (parse : UriParser) (settings : SessionSettings) (owner : ReceiptUid → ℕ)
    (config : Config) : SessionsKept parse settings owner (Sessions.start config) where
  totals := .start owner config
  requests r hr := by cases hr
  stored call hcall := by cases hcall
  apart := List.nodup_nil
  answers i hi := by cases hi
  links := rfl
  ids := List.nodup_nil

/-! ### What a link leads to -/

/-- The record of a link is that of the session's own request, address and totals. -/
structure Describes (s : Sessions) (i : IssuedSession) (record : PaymentLinkRecord) : Prop where
  paymentId : record.paymentId = i.response.paymentId
  unifiedAddress : record.unifiedAddress = i.response.address
  requestLabel : record.requestLabel = i.call.request.label
  requestMemo : record.requestMemo = i.call.request.memo
  requestMessage : record.requestMessage = i.call.request.message
  requestedAmount : record.requestedAmount = i.call.request.amount
  returnUrl : record.returnUrl = i.call.returnUrl
  total : record.currentTotalZat =
    eligibleTotalZat s.store.db.receipts.rows i.call.addressId
  totals : ∃ t, s.store.db.addressTotals.find? i.call.addressId = some t ∧
    record.stateVersion = t.stateVersion ∧
    record.receivedByConfirmationsZat = t.receivedByConfirmations

lemma mem_minted {i : IssuedSession} (hi : i ∈ s.issued) : i.call ∈ s.minted :=
  List.mem_append_right _ (List.mem_map_of_mem hi)

lemma findPaymentLink (hk : SessionsKept parse settings owner s) {i : IssuedSession}
    (hi : i ∈ s.issued) : ∃ record,
    s.store.findPaymentLink i.response.paymentId = some record ∧ Describes s i record := by
  have hkey : i.key ∈ s.store.paymentLinks.map PaymentLink.key :=
    hk.links ▸ List.mem_map_of_mem hi
  obtain ⟨l, hl, hkey⟩ := List.mem_map.mp hkey
  simp only [PaymentLink.key, IssuedSession.key, Prod.mk.injEq] at hkey
  obtain ⟨hid, haddress, hreturn⟩ := hkey
  have hfind : (s.store.paymentLinks.find? fun l => l.paymentId = i.response.paymentId)
      = some l := by
    rcases hf : s.store.paymentLinks.find? fun l => l.paymentId = i.response.paymentId with _ | l'
    · exact absurd hid (by simpa using List.find?_eq_none.mp hf l hl)
    · have hid' : l'.paymentId = i.response.paymentId := by simpa using List.find?_some hf
      rw [hf, List.inj_on_of_nodup_map hk.ids (List.mem_of_find?_eq_some hf) hl
        (hid'.trans hid.symm)]
  have hstored := hk.stored i.call (mem_minted hi)
  obtain ⟨t, ht, htotal⟩ := hk.totals.find? (hk.issued_of_minted (mem_minted hi))
  unfold SessionStore.findPaymentLink
  rw [hfind]
  simp only [Option.bind_eq_bind, Option.bind_some, haddress, hstored.address, hstored.request, ht]
  exact ⟨_, rfl, hid, ((hk.answers i hi).address).symm, rfl, rfl, rfl, rfl, hreturn, htotal, t, ht,
    rfl, rfl⟩

lemma paymentIds (hk : SessionsKept parse settings owner s) :
    s.store.paymentLinks.map (·.paymentId) = s.issued.map (·.response.paymentId) := by
  have := congrArg (List.map Prod.fst) hk.links
  simpa only [List.map_map, Function.comp_def, PaymentLink.key, IssuedSession.key] using this

lemma findPaymentLink_unknown (hk : SessionsKept parse settings owner s) {id : String}
    (h : id ∉ s.issued.map (·.response.paymentId)) : s.store.findPaymentLink id = none := by
  unfold SessionStore.findPaymentLink
  rw [List.find?_eq_none.mpr fun l hl heq => ?_]
  · rfl
  · rw [decide_eq_true_eq] at heq
    exact h (hk.paymentIds ▸ heq ▸ List.mem_map_of_mem hl)

/-- Two sessions share neither address nor link. -/
lemma pairwise (hk : SessionsKept parse settings owner s) :
    s.issued.Pairwise fun i j => i.response.paymentId ≠ j.response.paymentId ∧
      i.call.addressId ≠ j.call.addressId ∧ i.response.address ≠ j.response.address := by
  have hids : (s.issued.map (·.response.paymentId)).Nodup := hk.paymentIds ▸ hk.ids
  have haddresses : (s.issued.map (·.call.addressId)).Nodup := by
    have := hk.apart
    rw [Sessions.minted, List.map_append, List.map_map] at this
    exact this.of_append_right
  have hboth := (List.pairwise_map.mp hids).and (List.pairwise_map.mp haddresses)
  refine hboth.imp_of_mem fun {i j} hi hj hij => ⟨hij.1, hij.2, fun heq => hij.2 ?_⟩
  have hstored := (hk.stored i.call (mem_minted hi)).address
  have hstored' := (hk.stored j.call (mem_minted hj)).address
  have hrow := List.inj_on_of_nodup_map hk.totals.unified (Table.mem_of_find? hstored)
    (Table.mem_of_find? hstored')
    (((hk.answers i hi).address.symm.trans heq).trans (hk.answers j hj).address)
  exact congrArg IssuedAddress.addressId hrow

end SessionsKept

open SessionsKept (Describes)

/-- What a caller of the service may rely on. -/
structure Sessions.KeptApart (parse : UriParser) (settings : SessionSettings) (s : Sessions) :
    Prop where
  checked : ∀ i ∈ s.issued, checkSession parse settings i.call.request = .ok i.call.returnUrl ∧
    i.Answers settings
  /-- A link leads to the session's own address and request, and to the total of the receipts at
  that address. -/
  found : ∀ i ∈ s.issued, ∃ record, Describes s i record ∧
    s.store.status settings i.response.paymentId =
      .ok (statusOf settings.toLinkSettings record)
  apart : s.issued.Pairwise fun i j => i.response.paymentId ≠ j.response.paymentId ∧
    i.call.addressId ≠ j.call.addressId ∧ i.response.address ≠ j.response.address
  unknown : ∀ id, id ∉ s.issued.map (·.response.paymentId) →
    s.store.status settings id = .error (.notFound "unknown payment")
  /-- A call that has got its address gets its link, unless it draws an id that is taken. -/
  linked : ∀ call ∈ s.calls, ∀ bytes createdAt,
    newPaymentId bytes ∉ s.issued.map (·.response.paymentId) →
    ∃ store, call.finish settings bytes createdAt s.store =
      .ok (call.answer settings (newPaymentId bytes), store)

/-- **Sessions are kept apart**, whatever calls, ledger operations, queue passes and simulated
payments are run, in whatever order, and wherever calls end early. -/
theorem sessions_kept_apart (parse : UriParser) (settings : SessionSettings) (config : Config)
    (cutoffOf : Timestamp → Except AppError Timestamp) (owner : ReceiptUid → ℕ)
    (events : List SessionEvent) (howner : OwnsSimulated owner)
    (hevents : ∀ e ∈ events, e.Owned owner) :
    ((Sessions.start config).run parse settings cutoffOf events).KeptApart parse settings := by
  have hk : SessionsKept parse settings owner
      ((Sessions.start config).run parse settings cutoffOf events) :=
    (SessionsKept.start parse settings owner config).run howner hevents
  refine
    { checked := fun i hi => ⟨(hk.stored i.call (SessionsKept.mem_minted hi)).checked,
        hk.answers i hi⟩
      found := fun i hi => ?_
      apart := hk.pairwise
      unknown := fun id hid => ?_
      linked := fun call hcall bytes createdAt hid => ?_ }
  · obtain ⟨record, hfind, hd⟩ := hk.findPaymentLink hi
    refine ⟨record, hd, ?_⟩
    unfold SessionStore.status paymentStatus
    rw [if_neg (by simp [(hk.answers i hi).paymentId])]
    dsimp only
    rw [hfind]
  · unfold SessionStore.status paymentStatus
    split
    · rfl
    · dsimp only
      rw [hk.findPaymentLink_unknown hid]
  · rcases hk.finish_eq hcall bytes createdAt with ⟨-, h⟩ | ⟨h, -⟩
    · exact ⟨_, h⟩
    · exact absurd (hk.paymentIds ▸ h) hid

/-- A service of a test network that takes simulated payments. -/
def devConfig : Config :=
  { testConfig with requiredConfirmations := none, webhookReportConfirmations := 1 }

def devSettings : SessionSettings where
  publicBaseUrl := none
  requiredConfirmations := none
  returnUrlAllowedOrigins := []
  devSimulatedPayments := true
  webhookReportConfirmations := 1

/-- Two calls in each other's way, a scanned receipt and a simulated one. -/
theorem sessions_kept_apart_two_calls :
    ((Sessions.start devConfig).run (fun _ => .error "empty string") devSettings .ok
      [.mint { paymentSource := "zcash", amount := some "1" } ⟨"u1", [(.orchard, [1])]⟩ "t1",
        .mint { paymentSource := "zcash", label := some "b" } ⟨"u2", [(.orchard, [2])]⟩ "t2",
        .finish 1 (fun _ => 0) "t3",
        .ledger 2 "t4" (.applyAttributedReceipts
          [{ minedReceipt 2 "aa" 5 8 3 true with receiptUid := ⟨"aa", .orchard, 2⟩ }] 10),
        .finish 0 (fun _ => 255) "t5",
        .simulate { address := "u1", amount := "0.5", confirmations := some 3 } (fun _ => 7) "t6",
        .queue "t7" [1, 2]]).KeptApart (fun _ => .error "empty string") devSettings := by
  refine sessions_kept_apart _ devSettings devConfig .ok (fun u => u.outputIndex) _
    (fun _ _ => rfl) ?_
  simp [SessionEvent.Owned, OwnedReceipts, LedgerOp.receipts, minedReceipt]

end ZcashPayment

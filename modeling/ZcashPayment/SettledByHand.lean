import ZcashPayment.FundedOrders

/-!
What a plugin is asked for without an event.

Vendure asks its handler before it settles a payment and Medusa its provider before it captures one,
whoever wants it; Medusa also asks whether a session is authorized, so that a checkout can end while
the payment confirms. Each time the plugin asks the service.
-/

namespace ZcashPayment

/-! ### Medusa's provider -/

namespace Medusa

/-- `PaymentSessionStatus` -/
inductive SessionStatus where
  | authorized
  | pendingAuthorization
  deriving DecidableEq, Repr

/-- What `authorizePayment` and `getPaymentStatus` answer. Everything received counts. -/
def liveStatus (live : Option ServiceStatus) (data : Session) : SessionStatus :=
  match live.bind fun l => zecToZat l.totalReceived with
  | none => .pendingAuthorization
  | some received =>
    if 0 < data.amountZat ∧ data.amountZat ≤ received then .authorized else .pendingAuthorization

/-- `capturePayment`, from the webhook's workflow or by hand. -/
def capturePayment (live : Option ServiceStatus) (data : Session) : Except String Unit :=
  let total := live.bind fun l => zecToZat l.totalReceived
  match liveTotal live with
  | none => .error "Cannot reach zcash-payment-service to confirm the payment."
  | some confirmed =>
    let due := data.amountZat
    if due ≤ 0 ∨ confirmed < due then
      .error (if due ≤ (total.getD 0 : ℕ) then
          s!"Payment of {zatToZec (total.getD 0 : ℕ)} ZEC received, pending confirmation. " ++
            "It can be captured once confirmed."
        else s!"Received {zatToZec confirmed} of {zatToZec due} ZEC so far.")
    else .ok ()

variable {live : Option ServiceStatus} {data : Session}

lemma liveStatus_iff : liveStatus live data = .authorized ↔
    ∃ received, (live.bind fun l => zecToZat l.totalReceived) = some received ∧
      0 < data.amountZat ∧ data.amountZat ≤ received := by
  unfold liveStatus
  rcases live.bind fun l => zecToZat l.totalReceived with _ | received
  · simp
  · dsimp only
    split_ifs with hdue
    · exact ⟨fun _ => ⟨received, rfl, hdue⟩, fun _ => rfl⟩
    · refine ⟨fun h => absurd h (by simp), ?_⟩
      rintro ⟨n, h, hn⟩
      exact absurd (Option.some.inj h ▸ hn) hdue

lemma capturePayment_iff : capturePayment live data = .ok () ↔
    ∃ confirmed, liveTotal live = some confirmed ∧
      0 < data.amountZat ∧ data.amountZat ≤ confirmed := by
  unfold capturePayment
  rcases liveTotal live with _ | confirmed
  · simp
  · dsimp only
    split_ifs with hshort
    · refine ⟨fun h => absurd h (by simp), ?_⟩
      rintro ⟨n, h, hn⟩
      obtain rfl := Option.some.inj h
      omega
    · exact ⟨fun _ => ⟨confirmed, rfl, by omega⟩, fun _ => rfl⟩

end Medusa

/-- What Vendure's handler lets settle is confirmed. -/
lemma Vendure.settlePayment_confirmed {order : Vendure.Order} {payment : Vendure.Payment}
    {live : Option ServiceStatus} {received : ℕ}
    (h : Vendure.settlePayment order payment live = .ok received) :
    liveTotal live = some received ∧ 0 < payment.metadata.amountZat.getD 0 ∧
      payment.metadata.amountZat.getD 0 ≤ received := by
  unfold Vendure.settlePayment at h
  dsimp only at h
  split_ifs at h
  all_goals
    split at h
    · cases h
    next confirmed hlive =>
    split_ifs at h with hshort
    obtain rfl := Except.ok.inj h
    exact ⟨hlive, by omega⟩

/-! ### What the plugins are answered -/

section

variable {P : ShopPlugin} {parse : UriParser} {settings : SessionSettings}
  {owner : ReceiptUid → ℕ} {s : Shops P} {order : P.Order} {i : IssuedSession} {n : ℕ}

/-- What a plugin in TypeScript reads in the service's answer to an order. -/
def Shops.live (settings : SessionSettings) (s : Shops P) (order : P.Order) :
    Option ServiceStatus := do
  let (address, _) ← P.session order
  readStatus address (← s.answerTo settings order)

lemma total_of_readStatus {record : PaymentLinkRecord} {settings : LinkSettings} {address : String}
    (h : ((readStatus address (statusOf settings record).toJson).bind fun l =>
      zecToZat l.totalReceived) = some n) : (n : ℤ) = record.currentTotalZat := by
  unfold readStatus at h
  rw [field_address, Json.jsText, field_total] at h
  split_ifs at h
  · simp only [Option.bind_some, Json.jsString, zecToZat_format] at h
    split_ifs at h with hlegible
    have := hlegible.1
    have := Option.some.inj h
    omega
  · cases h

namespace ShopsKept

lemma live_eq (hk : ShopsKept parse settings owner s) (hi : s.IsSession order i) :
    ∃ record : PaymentLinkRecord,
      s.live settings order =
        readStatus i.response.address (statusOf settings.toLinkSettings record).toJson ∧
      settings.toLinkSettings.settledZat record =
        s.service.settledZat settings i.call.addressId ∧
      record.currentTotalZat =
        eligibleTotalZat s.service.store.db.receipts.rows i.call.addressId := by
  obtain ⟨record, hanswer, hrecord⟩ := hk.answerTo_eq hi
  refine ⟨record, ?_, hrecord.2⟩
  unfold Shops.live
  rw [hi.2, hanswer]
  rfl

lemma live_settled (hk : ShopsKept parse settings owner s) (hi : s.IsSession order i)
    (h : liveTotal (s.live settings order) = some n) :
    (n : ℤ) = s.service.settledZat settings i.call.addressId := by
  obtain ⟨record, hlive, hsettled, -⟩ := hk.live_eq hi
  rw [hlive] at h
  exact (readStatus_iff.mp h).2.2.trans hsettled

lemma live_total (hk : ShopsKept parse settings owner s) (hi : s.IsSession order i)
    (h : ((s.live settings order).bind fun l => zecToZat l.totalReceived) = some n) :
    (n : ℤ) = eligibleTotalZat s.service.store.db.receipts.rows i.call.addressId := by
  obtain ⟨record, hlive, -, htotal⟩ := hk.live_eq hi
  rw [hlive] at h
  exact (total_of_readStatus h).trans htotal

end ShopsKept

end

/-! ### By hand -/

/-- What the plugins agree to without an event. -/
structure Shops.ByHand {st : PrestaShop.States} (settings : SessionSettings)
    (s : Shops (plugins st)) : Prop where
  settle : ∀ (shop : Vendure.Shop) (order : Vendure.Order) (received : ℕ),
    .inr (.inl (some shop)) ∈ s.orders →
    Vendure.settlePayment order shop.payment (s.live settings (.inr (.inl (some shop)))) =
      .ok received →
    ∃ i, s.IsSession (.inr (.inl (some shop))) i ∧ 0 < shop.dueZat ∧ shop.dueZat ≤ received ∧
      (received : ℤ) = s.service.settledZat settings i.call.addressId
  capture : ∀ store : Medusa.Store, .inr (.inr (some store)) ∈ s.orders →
    Medusa.capturePayment (s.live settings (.inr (.inr (some store)))) store.session = .ok () →
    ∃ i, s.IsSession (.inr (.inr (some store))) i ∧ 0 < store.dueZat ∧
      store.dueZat ≤ s.service.settledZat settings i.call.addressId
  /-- Receipts without the required confirmations authorize too. -/
  authorize : ∀ store : Medusa.Store, .inr (.inr (some store)) ∈ s.orders →
    Medusa.liveStatus (s.live settings (.inr (.inr (some store)))) store.session = .authorized →
    ∃ i, s.IsSession (.inr (.inr (some store))) i ∧ 0 < store.dueZat ∧
      store.dueZat ≤ eligibleTotalZat s.service.store.db.receipts.rows i.call.addressId

/-- **By hand no more than by events**: whatever has happened, Vendure's handler lets nobody settle
a payment, and Medusa's provider nobody capture one, that the confirmed receipts at its own address
do not cover, and a session is authorized only where the receipts at its address cover it. -/
theorem settled_by_hand_is_funded (st : PrestaShop.States) (parse : UriParser)
    (settings : SessionSettings) (config : Config)
    (cutoffOf : Timestamp → Except AppError Timestamp) (owner : ReceiptUid → ℕ)
    (events : List (ShopEvent (plugins st)))
    (hrequired : config.requiredConfirmations = settings.requiredConfirmations)
    (howner : OwnsSimulated owner) (hevents : ∀ e ∈ events, e.Owned owner) :
    ((Shops.start (plugins st) config).run parse settings cutoffOf events).ByHand settings := by
  have hk := (ShopsKept.start (P := plugins st) parse settings owner hrequired).run cutoffOf
    (lawful_plugins st) howner hevents
  refine ⟨fun shop order received hmem h => ?_, fun store hmem h => ?_, fun store hmem h => ?_⟩
  · obtain ⟨hlive, hpos, hdue⟩ := Vendure.settlePayment_confirmed h
    have hsession : (plugins st).session (.inr (.inl (some shop))) ≠ none := by
      intro hnone
      unfold Shops.live at hlive
      rw [hnone] at hlive
      cases hlive
    obtain ⟨i, hi⟩ := hk.session hmem hsession
    exact ⟨i, hi, hpos, hdue, hk.live_settled hi hlive⟩
  · obtain ⟨confirmed, hlive, hpos, hdue⟩ := Medusa.capturePayment_iff.mp h
    obtain ⟨i, hi⟩ := hk.session hmem (Option.some_ne_none store.sessionKey)
    exact ⟨i, hi, hpos, hdue.trans_eq (hk.live_settled hi hlive)⟩
  · obtain ⟨received, hlive, hpos, hdue⟩ := Medusa.liveStatus_iff.mp h
    obtain ⟨i, hi⟩ := hk.session hmem (Option.some_ne_none store.sessionKey)
    exact ⟨i, hi, hpos, hdue.trans_eq (hk.live_total hi hlive)⟩

/-- A Medusa session whose payment is reported before it is confirmed. -/
theorem settled_by_hand_is_funded_unconfirmed :
    let st : PrestaShop.States :=
      { awaiting := 14, hold := 15, canceled := 6, refund := 7, error := 8, payment := 2
        paid := fun state => state == 2, awaiting_pos := by decide, hold_awaiting := by decide
        hold_closed := by decide, awaiting_closed := by decide, awaiting_paid := by decide
        closed_paid := by decide, payment_paid := by decide, payment_pos := by decide
        payment_hold := by decide }
    let settings : SessionSettings :=
      { publicBaseUrl := none, requiredConfirmations := some 2, returnUrlAllowedOrigins := []
        devSimulatedPayments := true, webhookReportConfirmations := 0 }
    let checkout : (plugins st).Checkout :=
      (({ amountZat := none, session := none }, { amountZat := none, session := none }), ("", 0),
        100000000, "1 zec", true)
    ((Shops.start (plugins st) testConfig).run (fun _ => .error "empty string") settings .ok
      [.place ⟨.inr (.inr none), rfl⟩,
        .service (.mint { paymentSource := "zcash", amount := some "1" } ⟨"u1", [(.orchard, [1])]⟩
          "t1"),
        .service (.finish 0 (fun _ => 255) "t2"),
        .checkout 0 checkout (some 0),
        .service (.simulate { address := "u1", amount := "1", confirmations := some 1 } (fun _ => 7)
          "t3")]).ByHand settings := by
  intro st settings checkout
  exact settled_by_hand_is_funded st _ settings testConfig .ok (fun u => u.outputIndex) _ rfl
    (fun _ _ => rfl) (by simp [ShopEvent.Owned, SessionEvent.Owned])

end ZcashPayment

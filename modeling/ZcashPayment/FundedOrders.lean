import ZcashPayment.SettledFunds
import ZcashPayment.ShopPlugins

/-!
Shops and the service they share.

The service runs as it does on its own; the shops' orders take its answers. Answers get lost, and so
do requests; events reach the orders in any order, as often as anybody likes and whether or not the
service ever sent them. What an order knows of the service is its session, so the invariant is about
sessions: each was issued, and none is handed out twice.
-/

namespace ZcashPayment

/-- The service, the answers to session requests that are on their way, and the orders. -/
structure Shops (P : ShopPlugin) where
  service : Sessions
  answers : List PaymentSessionResponse := []
  orders : List P.Order := []

/-- One step of the service, or of an order, by its place. -/
inductive ShopEvent (P : ShopPlugin) where
  | service (event : SessionEvent)
  /-- An order without a session. -/
  | place (order : {o : P.Order // P.session o = none})
  /-- The order takes an answer, or its request has failed. -/
  | checkout (order : ℕ) (checkout : P.Checkout) (answer : Option ℕ)
  | lose (answer : ℕ)
  /-- An event reaches the order; the answer of the service to it may get lost. -/
  | deliver (order : ℕ) (delivery : P.Delivery) (lost : Bool)
  | change (order : ℕ) (change : P.Change)

section

variable {P : ShopPlugin} (parse : UriParser) (settings : SessionSettings)
  (cutoffOf : Timestamp → Except AppError Timestamp)

/-- What the status route answers for the session of an order. -/
def Shops.answerTo (s : Shops P) (order : P.Order) : Option Json := do
  let (_, paymentId) ← P.session order
  match s.service.store.status settings paymentId with
  | .ok status => some status.toJson
  | .error _ => none

/-- The orders after a delivery to one of them. -/
def Shops.delivered (s : Shops P) (k : ℕ) (delivery : P.Delivery) (lost : Bool) : List P.Order :=
  s.orders.modify k fun order =>
    P.deliver delivery (if lost then none else s.answerTo settings order) order

def Shops.step (s : Shops P) : ShopEvent P → Shops P
  | .service event =>
    let service := s.service.step parse settings cutoffOf event
    { s with
      service
      answers := s.answers ++
        (service.issued.drop s.service.issued.length).map IssuedSession.response }
  | .place order => { s with orders := s.orders ++ [order.1] }
  | .checkout k checkout answer =>
    { s with
      answers := (answer.map s.answers.eraseIdx).getD s.answers
      orders := s.orders.modify k (P.checkout checkout (answer.bind fun i => s.answers[i]?)) }
  | .lose i => { s with answers := s.answers.eraseIdx i }
  | .deliver k delivery lost => { s with orders := s.delivered settings k delivery lost }
  | .change k change => { s with orders := s.orders.modify k (P.change change) }

def Shops.run (s : Shops P) (events : List (ShopEvent P)) : Shops P :=
  events.foldl (Shops.step parse settings cutoffOf) s

end

/-- The receipts a step hands to the ledger are at their addresses. -/
def ShopEvent.Owned {P : ShopPlugin} (owner : ReceiptUid → ℕ) : ShopEvent P → Prop
  | .service event => event.Owned owner
  | _ => True

/-! ### Sessions are handed out once -/

/-- What an order keeps of a session. -/
def PaymentSessionResponse.key (r : PaymentSessionResponse) : String × String :=
  (r.address, r.paymentId)

section

variable {α β : Type} {f : α → α} {l : List α} {k : ℕ} {a : α}

/-- One element, and the others. -/
lemma perm_filterMap_eraseIdx (g : α → Option β) (h : l[k]? = some a) :
    (l.filterMap g).Perm ((g a).toList ++ (l.eraseIdx k).filterMap g) := by
  obtain ⟨hlt, rfl⟩ := List.getElem?_eq_some_iff.mp h
  refine ((List.getElem_cons_eraseIdx_perm hlt).filterMap g).symm.trans ?_
  rw [List.filterMap_cons]
  cases g l[k] <;> exact .refl _

/-- The others are left as they are. -/
lemma perm_filterMap_modify (g : α → Option β) (f : α → α) (h : l[k]? = some a) :
    ((l.modify k f).filterMap g).Perm ((g (f a)).toList ++ (l.eraseIdx k).filterMap g) := by
  have hk : (l.modify k f)[k]? = some (f a) := by
    rw [List.getElem?_modify_eq, h]
    rfl
  have := perm_filterMap_eraseIdx g hk
  rwa [List.eraseIdx_modify_of_eq] at this

lemma modify_of_none (f : α → α) (h : l[k]? = none) : l.modify k f = l :=
  List.modify_eq_self (List.getElem?_eq_none_iff.mp h)

end

/-! ### Every run -/

section

variable {P : ShopPlugin} {parse : UriParser} {settings : SessionSettings}
  {cutoffOf : Timestamp → Except AppError Timestamp} {owner : ReceiptUid → ℕ} {s : Shops P}

/-- The sessions that are on their way or that an order has. -/
def Shops.handedOut (s : Shops P) : List (String × String) :=
  s.answers.map PaymentSessionResponse.key ++ s.orders.filterMap P.session

structure ShopsKept (parse : UriParser) (settings : SessionSettings) (owner : ReceiptUid → ℕ)
    (s : Shops P) : Prop where
  service : ServiceKept parse settings owner s.service
  once : s.handedOut.Subperm (s.service.issued.map fun i => i.response.key)

variable (parse settings cutoffOf) in
lemma issued_step (s : Sessions) (event : SessionEvent) :
    s.issued <+: (s.step parse settings cutoffOf event).issued := by
  cases event with
  | mint request new createdAt =>
    unfold Sessions.step
    dsimp only
    split
    · exact List.prefix_rfl
    · split <;> exact List.prefix_rfl
  | finish i bytes createdAt =>
    unfold Sessions.step
    dsimp only
    split
    · exact List.prefix_rfl
    · split
      · exact List.prefix_rfl
      · exact List.prefix_append _ _
  | simulate request random now =>
    unfold Sessions.step
    dsimp only
    split <;> exact List.prefix_rfl
  | abandon | ledger | queue => exact List.prefix_rfl

namespace ShopsKept

/-- A step of the service hands out what it issues. -/
lemma service_step (hk : ShopsKept parse settings owner s) (ho : OwnsSimulated owner)
    {event : SessionEvent} (he : event.Owned owner) :
    ShopsKept parse settings owner (s.step parse settings cutoffOf (.service event)) := by
  refine ⟨hk.service.step ho he, ?_⟩
  obtain ⟨new, hnew⟩ := issued_step parse settings cutoffOf s.service event
  unfold Shops.step Shops.handedOut
  dsimp only
  rw [← hnew, List.drop_left, List.map_append, List.map_map, List.map_append]
  have hperm : (s.answers.map PaymentSessionResponse.key ++
      new.map (PaymentSessionResponse.key ∘ IssuedSession.response) ++
        s.orders.filterMap P.session).Perm
      (s.handedOut ++ new.map (PaymentSessionResponse.key ∘ IssuedSession.response)) := by
    rw [Shops.handedOut, List.append_assoc, List.append_assoc]
    exact List.perm_append_comm.append_left _
  exact hperm.subperm_right.mpr ((List.subperm_append_right _).mpr hk.once)

/-- What orders have is a part of what they had. -/
lemma of_subperm (hk : ShopsKept parse settings owner s) {answers : List PaymentSessionResponse}
    {orders : List P.Order}
    (h : (answers.map PaymentSessionResponse.key ++ orders.filterMap P.session).Subperm
      s.handedOut) : ShopsKept parse settings owner { s with answers, orders } :=
  ⟨hk.service, h.trans hk.once⟩

lemma filterMap_modify_same {f : P.Order → P.Order} (k : ℕ)
    (h : ∀ o, P.session (f o) = P.session o) :
    ((s.orders.modify k f).filterMap P.session).Perm (s.orders.filterMap P.session) := by
  rcases hk : s.orders[k]? with _ | order
  · rw [modify_of_none f hk]
  · exact (h order ▸ perm_filterMap_modify P.session f hk).trans
      (perm_filterMap_eraseIdx P.session hk).symm

/-- An answer is one the service gave. -/
lemma isPaymentId_of_mem (hk : ShopsKept parse settings owner s) {r : PaymentSessionResponse}
    (hr : r ∈ s.answers) : isPaymentId r.paymentId = true := by
  have hkey : r.key ∈ s.handedOut := List.mem_append_left _ (List.mem_map_of_mem hr)
  obtain ⟨i, hi, heq⟩ := List.mem_map.mp (hk.once.subset hkey)
  have hid : i.response.paymentId = r.paymentId := congrArg Prod.snd heq
  exact hid ▸ (hk.service.answers i hi).paymentId

/-- A checkout takes one answer and leaves the others, or it leaves them all, or loses one. -/
lemma checkout_step (hP : P.Lawful) (hk : ShopsKept parse settings owner s) (k : ℕ)
    (checkout : P.Checkout) (answer : Option ℕ) :
    ShopsKept parse settings owner
      (s.step parse settings cutoffOf (.checkout k checkout answer)) := by
  refine hk.of_subperm ?_
  have hanswers : ((answer.map s.answers.eraseIdx).getD s.answers).Sublist s.answers := by
    cases answer with
    | none => exact .refl _
    | some i => exact List.eraseIdx_sublist _ _
  have hkeep : ∀ orders : List P.Order,
      (orders.filterMap P.session).Perm (s.orders.filterMap P.session) →
      (((answer.map s.answers.eraseIdx).getD s.answers).map PaymentSessionResponse.key ++
        orders.filterMap P.session).Subperm s.handedOut := fun orders h =>
    ((hanswers.map _).append (.refl _)).subperm.trans (h.append_left _).subperm
  rcases horder : s.orders[k]? with _ | order
  · rw [modify_of_none _ horder]
    exact hkeep _ (.refl _)
  have hold := perm_filterMap_eraseIdx P.session horder
  have hnew := perm_filterMap_modify P.session
    (P.checkout checkout (answer.bind fun i => s.answers[i]?)) horder
  rcases hP.checkout_session checkout (answer.bind fun i => s.answers[i]?) order with
    hsame | ⟨hnone, r, hr, hsession⟩
  · rw [hsame] at hnew
    exact hkeep _ (hnew.trans hold.symm)
  · obtain ⟨i, rfl, hi⟩ := Option.bind_eq_some_iff.mp hr
    rw [hsession (hk.isPaymentId_of_mem (List.mem_of_getElem? hi))] at hnew
    rw [hnone] at hold
    obtain ⟨hlt, rfl⟩ := List.getElem?_eq_some_iff.mp hi
    have htaken : (s.answers.map PaymentSessionResponse.key).Perm
        (s.answers[i].key :: (s.answers.eraseIdx i).map PaymentSessionResponse.key) :=
      ((List.getElem_cons_eraseIdx_perm hlt).map _).symm
    refine List.Perm.subperm ?_
    refine (hnew.append_left _).trans (List.perm_middle.trans ?_)
    exact htaken.symm.append hold.symm

lemma step (hP : P.Lawful) (hk : ShopsKept parse settings owner s) (ho : OwnsSimulated owner)
    {event : ShopEvent P} (he : event.Owned owner) :
    ShopsKept parse settings owner (s.step parse settings cutoffOf event) := by
  cases event with
  | service event => exact hk.service_step ho he
  | place order =>
    refine hk.of_subperm ?_
    rw [List.filterMap_append, List.filterMap_cons, order.2, List.filterMap_nil, List.append_nil]
    exact .refl _
  | checkout k checkout answer => exact hk.checkout_step hP k checkout answer
  | lose i =>
    exact hk.of_subperm (((List.eraseIdx_sublist _ _).map _).append (.refl _)).subperm
  | deliver k delivery lost =>
    exact hk.of_subperm ((filterMap_modify_same k fun o =>
      hP.deliver_session delivery _ o).append_left _).subperm
  | change k change =>
    exact hk.of_subperm ((filterMap_modify_same k fun o =>
      hP.change_session change o).append_left _).subperm

variable (cutoffOf) in
lemma run (hP : P.Lawful) (hk : ShopsKept parse settings owner s) (ho : OwnsSimulated owner)
    {events : List (ShopEvent P)} (he : ∀ e ∈ events, e.Owned owner) :
    ShopsKept parse settings owner (s.run parse settings cutoffOf events) := by
  induction events generalizing s with
  | nil => exact hk
  | cons e events ih =>
    exact ih (hk.step hP ho (he e List.mem_cons_self)) fun e' he' =>
      he e' (List.mem_cons_of_mem e he')

end ShopsKept

/-- The session of an order. -/
def Shops.IsSession (s : Shops P) (order : P.Order) (i : IssuedSession) : Prop :=
  i ∈ s.service.issued ∧ P.session order = some i.response.key

variable (parse settings cutoffOf) in
/-- What holds between the orders and the ledger. -/
structure Shops.Funded (s : Shops P) : Prop where
  session : ∀ order ∈ s.orders, P.session order ≠ none → ∃ i, s.IsSession order i
  /-- No two orders share an address, so no receipt counts for both. -/
  apart : ∀ (k l : ℕ) (order order' : P.Order), k ≠ l →
    s.orders[k]? = some order → s.orders[l]? = some order' →
    ∀ i j, s.IsSession order i → s.IsSession order' j →
      i.call.addressId ≠ j.call.addressId ∧ i.response.address ≠ j.response.address
  /-- Whatever happens next, an order is completed only if what is due for it has arrived at its
  address with the required confirmations. -/
  funded : ∀ (event : ShopEvent P) (k : ℕ) (order : P.Order), s.orders[k]? = some order →
    ∃ order', (s.step parse settings cutoffOf event).orders[k]? = some order' ∧
      (P.completed order' = P.completed order ∨ ∃ i, s.IsSession order i ∧
        P.dueZat order ≤ s.service.settledZat settings i.call.addressId)

namespace ShopsKept

lemma session (hk : ShopsKept parse settings owner s) {order : P.Order} (ho : order ∈ s.orders)
    (h : P.session order ≠ none) : ∃ i, s.IsSession order i := by
  obtain ⟨key, hkey⟩ := Option.ne_none_iff_exists'.mp h
  have hmem : key ∈ s.handedOut :=
    List.mem_append_right _ (List.mem_filterMap.mpr ⟨order, ho, hkey⟩)
  obtain ⟨i, hi, heq⟩ := List.mem_map.mp (hk.once.subset hmem)
  exact ⟨i, hi, heq ▸ hkey⟩

lemma apart (hk : ShopsKept parse settings owner s) {k l : ℕ} {order order' : P.Order}
    (hkl : k ≠ l) (hO : s.orders[k]? = some order) (hO' : s.orders[l]? = some order')
    {i j : IssuedSession} (hi : s.IsSession order i) (hj : s.IsSession order' j) :
    i.call.addressId ≠ j.call.addressId ∧ i.response.address ≠ j.response.address := by
  have hpairwise := hk.service.pairwise
  have hnodup : (s.service.issued.map fun i => i.response.key).Nodup := by
    refine List.pairwise_map.mpr (hpairwise.imp fun h heq => h.2.2 ?_)
    exact congrArg Prod.fst heq
  have hsessions : (s.orders.filterMap P.session).Nodup := by
    obtain ⟨l, hperm, hsub⟩ := hk.once
    exact (hperm.nodup_iff.mp (hsub.nodup hnodup)).of_append_right
  have hrest : i.response.key ∉ (s.orders.eraseIdx k).filterMap P.session := by
    have := (perm_filterMap_eraseIdx P.session hO).nodup_iff.mp hsessions
    rw [hi.2] at this
    exact (List.nodup_cons.mp this).1
  have hne : i ≠ j := by
    rintro rfl
    refine hrest (List.mem_filterMap.mpr ⟨order', ?_, hj.2⟩)
    exact List.mem_eraseIdx_iff_getElem?.mpr ⟨l, hkl.symm, hO'⟩
  have haddressIds : (s.service.issued.map fun i => i.call.addressId).Nodup :=
    List.pairwise_map.mpr (hpairwise.imp fun h => h.2.1)
  have haddresses : (s.service.issued.map fun i => i.response.address).Nodup :=
    List.pairwise_map.mpr (hpairwise.imp fun h => h.2.2)
  exact ⟨fun heq => hne (List.inj_on_of_nodup_map haddressIds hi.1 hj.1 heq),
    fun heq => hne (List.inj_on_of_nodup_map haddresses hi.1 hj.1 heq)⟩

/-- An order with a session is answered, and what it is answered is in the ledger. -/
lemma answerTo_eq (hk : ShopsKept parse settings owner s) {order : P.Order} {i : IssuedSession}
    (hi : s.IsSession order i) : ∃ record,
    s.answerTo settings order = some (statusOf settings.toLinkSettings record).toJson ∧
      record.unifiedAddress = i.response.address ∧
      settings.toLinkSettings.settledZat record = s.service.settledZat settings i.call.addressId ∧
      record.currentTotalZat =
        eligibleTotalZat s.service.store.db.receipts.rows i.call.addressId := by
  obtain ⟨record, hfind, hrecord⟩ := hk.service.findPaymentLink hi.1
  have hstatus : s.service.store.status settings i.response.paymentId =
      .ok (statusOf settings.toLinkSettings record) := by
    unfold SessionStore.status paymentStatus
    rw [if_neg (by simp [(hk.service.answers i hi.1).paymentId])]
    dsimp only
    rw [hfind]
  refine ⟨record, ?_, hrecord⟩
  rw [Shops.answerTo, hi.2]
  simp only [Option.bind_eq_bind, Option.bind_some, PaymentSessionResponse.key, hstatus]

lemma answered (hk : ShopsKept parse settings owner s) {order : P.Order} {i : IssuedSession}
    (hi : s.IsSession order i) {answer : Json} (ha : s.answerTo settings order = some answer)
    {n : ℕ} (hn : Reads i.response.address answer n) :
    (n : ℤ) = s.service.settledZat settings i.call.addressId := by
  obtain ⟨record, hanswer, -, hsettled, -⟩ := hk.answerTo_eq hi
  obtain rfl := Option.some.inj (ha.symm.trans hanswer)
  exact hn.settled.2.trans hsettled

lemma funded (hP : P.Lawful) (hk : ShopsKept parse settings owner s) (event : ShopEvent P) {k : ℕ}
    {order : P.Order} (hO : s.orders[k]? = some order) :
    ∃ order', (s.step parse settings cutoffOf event).orders[k]? = some order' ∧
      (P.completed order' = P.completed order ∨ ∃ i, s.IsSession order i ∧
        P.dueZat order ≤ s.service.settledZat settings i.call.addressId) := by
  have hmodify : ∀ (l : ℕ) (f : P.Order → P.Order),
      (s.orders.modify l f)[k]? = some (if l = k then f order else order) := by
    intro l f
    rw [List.getElem?_modify, hO]
    split_ifs <;> rfl
  cases event with
  | service event => exact ⟨order, hO, .inl rfl⟩
  | place placed =>
    refine ⟨order, ?_, .inl rfl⟩
    exact (List.getElem?_append_left (List.getElem?_eq_some_iff.mp hO).1).trans hO
  | checkout l checkout answer =>
    refine ⟨_, hmodify l _, .inl ?_⟩
    split_ifs
    · exact hP.checkout_completed _ _ _
    · rfl
  | lose i => exact ⟨order, hO, .inl rfl⟩
  | change l change =>
    refine ⟨_, hmodify l _, .inl ?_⟩
    split_ifs
    · exact hP.change_completed _ _
    · rfl
  | deliver l delivery lost =>
    refine ⟨_, hmodify l _, ?_⟩
    by_cases hl : l = k
    swap
    · rw [if_neg hl]
      exact .inl rfl
    rw [if_pos hl]
    by_cases hsame : P.completed (P.deliver delivery
        (if lost then none else s.answerTo settings order) order) = P.completed order
    · exact .inl hsame
    obtain ⟨address, paymentId, answer, n, hsession, hbody, hn, hdue⟩ :=
      hP.deliver_completed _ _ _ hsame
    obtain ⟨i, hi⟩ := hk.session (List.mem_of_getElem? hO) (by simp [hsession])
    have haddress : address = i.response.address :=
      congrArg Prod.fst (Option.some.inj (hsession.symm.trans hi.2))
    have hanswer : s.answerTo settings order = some answer := by
      cases lost with
      | true => exact absurd hbody (by simp)
      | false => exact hbody
    refine .inr ⟨i, hi, ?_⟩
    rw [← hk.answered hi hanswer (haddress ▸ hn)]
    exact hdue

end ShopsKept

end

/-! ### The plugins -/

/-- A shop with orders of all four plugins. -/
def plugins (st : PrestaShop.States) : ShopPlugin :=
  (WooCommerce.plugin.or (PrestaShop.plugin st)).or (Vendure.plugin.or Medusa.plugin)

lemma lawful_plugins (st : PrestaShop.States) : (plugins st).Lawful :=
  (WooCommerce.lawful.or (PrestaShop.lawful st)).or (Vendure.lawful.or Medusa.lawful)

/-- A service on a fresh database, and no orders. -/
def Shops.start (P : ShopPlugin) (config : Config) : Shops P where
  service := Sessions.start config

lemma ShopsKept.start {P : ShopPlugin} (parse : UriParser) (settings : SessionSettings)
    (owner : ReceiptUid → ℕ) {config : Config}
    (h : config.requiredConfirmations = settings.requiredConfirmations) :
    ShopsKept parse settings owner (Shops.start P config) :=
  ⟨.start parse settings owner h, .refl _⟩

/-- **Orders are funded**, whatever calls, ledger operations and simulated payments the service
runs, whatever events reach the orders, and whichever answers are lost: every session of an order is
the service's, no two orders share an address, and an order is completed only where the receipts at
its own address that have the required confirmations cover what is due for it. -/
theorem orders_are_funded (st : PrestaShop.States) (parse : UriParser) (settings : SessionSettings)
    (config : Config) (cutoffOf : Timestamp → Except AppError Timestamp)
    (owner : ReceiptUid → ℕ) (events : List (ShopEvent (plugins st)))
    (hrequired : config.requiredConfirmations = settings.requiredConfirmations)
    (howner : OwnsSimulated owner) (hevents : ∀ e ∈ events, e.Owned owner) :
    ((Shops.start (plugins st) config).run parse settings cutoffOf events).Funded parse settings
      cutoffOf := by
  have hk := (ShopsKept.start parse settings owner hrequired).run cutoffOf (lawful_plugins st)
    howner hevents
  exact
    { session := fun order ho h => hk.session ho h
      apart := fun k l order order' hkl hO hO' i j hi hj => hk.apart hkl hO hO' hi hj
      funded := fun event k order hO => hk.funded (lawful_plugins st) event hO }

/-- An order of WooCommerce and one of PrestaShop ask for sessions; the second answer gets lost. -/
theorem orders_are_funded_two_shops :
    let st : PrestaShop.States :=
      { awaiting := 14, hold := 15, canceled := 6, refund := 7, error := 8, payment := 2
        paid := fun state => state == 2, awaiting_pos := by decide, hold_awaiting := by decide
        hold_closed := by decide, awaiting_closed := by decide, awaiting_paid := by decide
        closed_paid := by decide, payment_paid := by decide, payment_pos := by decide
        payment_hold := by decide }
    let settings : SessionSettings :=
      { publicBaseUrl := none, requiredConfirmations := some 2, returnUrlAllowedOrigins := []
        devSimulatedPayments := true, webhookReportConfirmations := 0 }
    let request : PaymentSessionRequest := { paymentSource := "zcash", amount := some "1" }
    let checkout : (plugins st).Checkout :=
      (({ amountZat := some 100000000, session := none },
        { amountZat := some 100000000, session := none }), ("", 0), 0, "", false)
    ((Shops.start (plugins st) testConfig).run (fun _ => .error "empty string") settings .ok
      [.place ⟨.inl (.inl (WooCommerce.placed .pending WooCommerce.id "1" "ZEC")), rfl⟩,
        .place ⟨.inl (.inr (PrestaShop.placed 14 "zcashpayment" "1 ZEC")), rfl⟩,
        .service (.mint request ⟨"u1", [(.orchard, [1])]⟩ "t1"),
        .service (.mint request ⟨"u2", [(.orchard, [2])]⟩ "t2"),
        .service (.finish 1 (fun _ => 0) "t3"),
        .service (.finish 0 (fun _ => 255) "t4"),
        .checkout 0 checkout (some 1),
        .lose 0,
        .checkout 1 checkout none,
        .service (.simulate { address := "u1", amount := "1", confirmations := some 3 } (fun _ => 7)
          "t5")]).Funded (fun _ => .error "empty string") settings .ok := by
  intro st settings request checkout
  exact orders_are_funded st _ settings testConfig .ok (fun u => u.outputIndex) _ rfl
    (fun _ _ => rfl) (by simp [ShopEvent.Owned, SessionEvent.Owned])

end ZcashPayment

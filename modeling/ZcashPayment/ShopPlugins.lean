import ZcashPayment.MedusaHold
import ZcashPayment.PaymentSessions
import ZcashPayment.PrestaShopSafety
import ZcashPayment.StatusAnswers
import ZcashPayment.VendureSafety
import ZcashPayment.WooCommerceSafety

/-!
What the plugins have in common.

A plugin keeps for an order the address and the id of its payment session, and completes the order
in a delivery. Four plugins keep the same rules: an order gets its session from one answer of the
service and keeps it, and it is completed only where the service, asked for that session, answers
that what is due has settled.
-/

namespace ZcashPayment

/-- A plugin, by what reaches one of its orders. A delivery comes with the answer of the service to
the order's session, and a checkout with the session that the service issued; `none` is a failed
call. -/
structure ShopPlugin where
  Order : Type
  Delivery : Type
  Checkout : Type
  Change : Type
  /-- The address and the id of the payment session. -/
  session : Order → Option (String × String)
  dueZat : Order → ℤ
  /-- How often the order was completed. -/
  completed : Order → ℕ
  deliver : Delivery → Option Json → Order → Order
  checkout : Checkout → Option PaymentSessionResponse → Order → Order
  /-- What others do to the order. -/
  change : Change → Order → Order

/-- One of the plugins reads an amount as settled in a status answer. -/
def Reads (address : String) (body : Json) (n : ℕ) : Prop :=
  liveTotal (readStatus address body) = some n ∨
    Php.liveZat (Php.readStatus Php.castText address body) = some n ∨
    Php.liveZat (Php.readStatus Php.stringText address body) = some n

lemma Reads.settled {settings : LinkSettings} {record : PaymentLinkRecord} {address : String}
    {n : ℕ} (h : Reads address (statusOf settings record).toJson n) :
    record.unifiedAddress = address ∧ (n : ℤ) = settings.settledZat record := by
  rw [Reads, Php.readStatus_eq rfl, Php.readStatus_eq rfl, or_self, or_self] at h
  have := readStatus_iff.mp h
  exact ⟨this.1, this.2.2⟩

/-- The rules that every plugin keeps. -/
structure ShopPlugin.Lawful (P : ShopPlugin) : Prop where
  deliver_session : ∀ d body o, P.session (P.deliver d body o) = P.session o
  change_session : ∀ c o, P.session (P.change c o) = P.session o
  /-- A session comes from one answer, and only where there is none yet. -/
  checkout_session : ∀ c answer o, P.session (P.checkout c answer o) = P.session o ∨
    P.session o = none ∧ ∃ r, answer = some r ∧ (isPaymentId r.paymentId = true →
      P.session (P.checkout c answer o) = some (r.address, r.paymentId))
  change_completed : ∀ c o, P.completed (P.change c o) = P.completed o
  checkout_completed : ∀ c answer o, P.completed (P.checkout c answer o) = P.completed o
  deliver_completed : ∀ d body o, P.completed (P.deliver d body o) ≠ P.completed o →
    ∃ address paymentId answer n, P.session o = some (address, paymentId) ∧
      body = some answer ∧ Reads address answer n ∧ P.dueZat o ≤ n

/-- A shop with orders of two plugins. -/
def ShopPlugin.or (P Q : ShopPlugin) : ShopPlugin where
  Order := P.Order ⊕ Q.Order
  Delivery := P.Delivery × Q.Delivery
  Checkout := P.Checkout × Q.Checkout
  Change := P.Change × Q.Change
  session := Sum.elim P.session Q.session
  dueZat := Sum.elim P.dueZat Q.dueZat
  completed := Sum.elim P.completed Q.completed
  deliver d body := Sum.map (P.deliver d.1 body) (Q.deliver d.2 body)
  checkout c answer := Sum.map (P.checkout c.1 answer) (Q.checkout c.2 answer)
  change c := Sum.map (P.change c.1) (Q.change c.2)

lemma ShopPlugin.Lawful.or {P Q : ShopPlugin} (hP : P.Lawful) (hQ : Q.Lawful) :
    (P.or Q).Lawful where
  deliver_session d body o := by
    cases o with
    | inl o => exact hP.deliver_session d.1 body o
    | inr o => exact hQ.deliver_session d.2 body o
  change_session c o := by
    cases o with
    | inl o => exact hP.change_session c.1 o
    | inr o => exact hQ.change_session c.2 o
  checkout_session c answer o := by
    cases o with
    | inl o => exact hP.checkout_session c.1 answer o
    | inr o => exact hQ.checkout_session c.2 answer o
  change_completed c o := by
    cases o with
    | inl o => exact hP.change_completed c.1 o
    | inr o => exact hQ.change_completed c.2 o
  checkout_completed c answer o := by
    cases o with
    | inl o => exact hP.checkout_completed c.1 answer o
    | inr o => exact hQ.checkout_completed c.2 answer o
  deliver_completed d body o h := by
    cases o with
    | inl o => exact hP.deliver_completed d.1 body o h
    | inr o => exact hQ.deliver_completed d.2 body o h

/-! ### WooCommerce -/

namespace WooCommerce

open Php (liveZat nonEmpty?)

def Order.session (order : Order) : Option (String × String) :=
  order.address.map fun a => (a.1, order.paymentId)

def plugin : ShopPlugin where
  Order := Store
  Delivery := Php.Observation × Env
  Checkout := CheckoutEnv
  Change := Change
  session s := s.order.session
  dueZat s := s.order.amountZat
  completed s := s.completions.length
  deliver d body s :=
    let live := do
      let (address, _) ← s.order.session
      Php.readStatus Php.castText address (← body)
    deliver { d.2 with live } d.1 s
  checkout env answer s :=
    let session := answer.map fun r => ⟨r.address, r.qrText, r.paymentId, r.payUrl⟩
    (startSession { env with session } s).2
  change c s := s.change c

variable {s : Store} {order : Order} {env : Env} {o : Php.Observation}

@[simp] lemma session_setStatus (order : Order) (new : Status) :
    (order.setStatus new).session = order.session := by
  rw [setStatus_eq]
  rfl

lemma session_change (s : Store) (c : Change) : (s.change c).order.session = s.order.session := by
  cases c with
  | setStatus new => exact session_setStatus s.order new
  | refund =>
    show s.order.refunded.session = _
    unfold Order.refunded
    split_ifs <;> rfl
  | setPaymentMethod method => rfl
  | reprice total currency => rfl
  | clearReview => rfl

lemma session_changes (s : Store) (cs : List Change) :
    (s.changes cs).order.session = s.order.session := by
  induction cs generalizing s with
  | nil => rfl
  | cons c cs ih => exact (ih (s.change c)).trans (session_change s c)

lemma session_paymentComplete (order : Order) (needsProcessing : Bool) :
    (order.paymentComplete needsProcessing).session = order.session := by
  unfold Order.paymentComplete
  split_ifs <;> simp

/-- The held order and the stored one keep the session. -/
lemma session_autoHold (env : Env) (order : Order) (message : String) (s : Store) :
    (∀ held ∈ (autoHold env order message s).1, held.session = order.session) ∧
      (s.order.session = order.session →
        (autoHold env order message s).2.order.session = order.session) := by
  unfold autoHold
  dsimp only
  split_ifs
  · exact ⟨fun held h => by obtain rfl := Option.some.inj h; rfl, fun h => h⟩
  · exact ⟨fun held h => by obtain rfl := Option.some.inj h; exact session_setStatus _ _,
      fun _ => session_setStatus _ _⟩
  · exact ⟨fun held h => absurd h (by simp), fun _ => rfl⟩

lemma session_complete (env : Env) (o : Php.Observation) (live : ℕ) (s : Store) :
    (complete env o live s).2.order.session = s.order.session := by
  unfold complete
  dsimp only
  split_ifs
  · rfl
  all_goals split
  · exact session_setStatus _ _
  · exact session_paymentComplete _ _
  · rfl
  · rfl

lemma session_deliver (env : Env) (o : Php.Observation) (s : Store) :
    (deliver env o s).order.session = s.order.session := by
  have hhold : ∀ {order message s' held t}, autoHold env order message s' = (held, t) →
      order.session = s.order.session → s'.order.session = s.order.session →
        t.order.session = s.order.session ∧ ∀ k ∈ held, k.session = s.order.session := by
    intro order message s' held t h ho hs'
    obtain ⟨hheld, hstored⟩ := session_autoHold env order message s'
    rw [h] at hheld hstored
    exact ⟨(hstored (hs'.trans ho.symm)).trans ho, fun k hk => (hheld k hk).trans ho⟩
  unfold deliver apply
  dsimp only
  split
  · rfl
  split
  · rfl
  split
  · split
    · split
      · next h => exact (hhold h rfl rfl).1
      · next h =>
        have := (hhold h rfl rfl).2 _ (Option.mem_some_self _)
        exact this
    · rfl
  split
  · split
    · split
      · next h => exact (hhold h rfl rfl).1
      · next h =>
        have := (hhold h rfl rfl).2 _ (Option.mem_some_self _)
        exact this
    · rfl
  split
  · rfl
  have h := session_changes s env.meanwhile
  split
  · split
    · exact h
    · split
      · exact h
      · exact (session_complete env o _ _).trans h
  · split
    · rfl
    · split <;> rfl

/-- What a delivery completes, the service has confirmed. -/
lemma completions_funded (env : Env) (o : Php.Observation) (s : Store) :
    (deliver env o s).completions = s.completions ∨
      s.order.address ≠ none ∧ ∃ live, liveZat (serviceStatus env s.order) = some live ∧
        s.order.amountZat ≤ live := by
  have hhold : ∀ {order message s' held t}, autoHold env order message s' = (held, t) →
      s'.completions = s.completions → t.completions = s.completions := by
    intro order message s' held t h hs'
    have := completions_autoHold env order message s'
    rw [h] at this
    exact this.trans hs'
  unfold deliver apply
  dsimp only
  split
  · exact .inl rfl
  next haddress =>
  split
  · exact .inl rfl
  split
  · split
    · split
      all_goals
        next h =>
        have := hhold h rfl
        exact .inl this
    · exact .inl rfl
  split
  · split
    · split
      all_goals
        next h =>
        have := hhold h rfl
        exact .inl this
    · exact .inl rfl
  split
  · exact .inl rfl
  have h := completions_changes s env.meanwhile
  split
  · split
    · exact .inl h
    · next live hlive =>
      split
      · exact .inl h
      · next hdue =>
        refine .inr ⟨fun hn => haddress ?_, live, hlive, by omega⟩
        simp [hn]
  · split
    · exact .inl rfl
    · split <;> exact .inl rfl

lemma nonEmpty?_eq {s : String} {a : Php.NonEmpty} (h : nonEmpty? s = some a) : a.1 = s := by
  unfold nonEmpty? at h
  split_ifs at h
  obtain rfl := Option.some.inj h
  rfl

/-- An order without an address takes the one answer it asked for. -/
lemma startSession_session (env : CheckoutEnv) (s : Store) :
    (startSession env s).2.completions = s.completions ∧
      ((startSession env s).2.order.session = s.order.session ∨
        s.order.session = none ∧ ∃ r, env.session = some r ∧ (isPaymentId r.paymentId = true →
          (startSession env s).2.order.session = some (r.address, r.paymentId))) := by
  have hchanges := session_changes s env.meanwhile
  have hcompletions := completions_changes s env.meanwhile
  unfold startSession
  dsimp only
  split
  · split_ifs <;> exact ⟨rfl, .inl rfl⟩
  next hnone =>
  split
  · exact ⟨rfl, .inl rfl⟩
  next amountZat _ =>
  split
  · exact ⟨hcompletions, .inl hchanges⟩
  next session hsession =>
  split
  · next address qrText haddress _ =>
    split
    · exact ⟨hcompletions, .inl hchanges⟩
    split
    · exact ⟨hcompletions, .inl hchanges⟩
    refine ⟨?_, .inr ⟨by rw [Order.session, hnone]; rfl, session, hsession, fun hvalid => ?_⟩⟩
    · split <;> exact hcompletions
    · have hzero : session.paymentId ≠ "0" := by
        intro hz
        rw [hz] at hvalid
        exact absurd hvalid (by decide)
      rw [if_neg hzero, ← nonEmpty?_eq haddress]
      split
      · exact session_setStatus _ _
      · rfl
  · exact ⟨hcompletions, .inl hchanges⟩

lemma lawful : plugin.Lawful where
  deliver_session d body s := session_deliver _ _ _
  change_session c s := session_change s c
  checkout_session env answer s := by
    refine (startSession_session { env with session := _ } s).2.imp_right ?_
    rintro ⟨hnone, r, hr, hs⟩
    obtain ⟨r', hr', rfl⟩ := Option.map_eq_some_iff.mp hr
    exact ⟨hnone, r', hr', hs⟩
  change_completed c s := rfl
  checkout_completed env answer s := congrArg List.length (startSession_session _ s).1
  deliver_completed d body s h := by
    rcases completions_funded _ d.1 s with hsame | ⟨haddress, live, hlive, hdue⟩
    · exact absurd (congrArg List.length hsame) h
    obtain ⟨a, ha⟩ := Option.ne_none_iff_exists'.mp haddress
    have hsession : s.order.session = some (a.1, s.order.paymentId) := by
      rw [Order.session, ha]
      rfl
    rw [serviceStatus, hsession] at hlive
    split_ifs at hlive
    · cases body with
      | none => cases hlive
      | some answer =>
        exact ⟨a.1, s.order.paymentId, answer, live, hsession, rfl, .inr (.inl hlive),
          Int.ofNat_le.mpr hdue⟩
    · cases hlive

end WooCommerce

/-! ### PrestaShop -/

namespace PrestaShop

open Php (liveZat nonEmpty?)

variable (st : States)

def Store.session (s : Store) : Option (String × String) :=
  s.row.address.map fun a => (a.1, s.row.paymentId)

def plugin : ShopPlugin where
  Order := Store
  Delivery := Php.Observation × Env
  Checkout := CheckoutEnv
  Change := Change
  session := Store.session
  dueZat s := s.row.amountZat
  completed s := s.completions.length
  deliver d body s :=
    let live := do
      let (address, _) ← s.session
      Php.readStatus Php.stringText address (← body)
    deliver st { d.2 with live } d.1 s
  checkout env answer s :=
    let session := answer.map fun r => ⟨r.address, r.qrText, r.paymentId, r.payUrl⟩
    (validation st { env with session } s).2
  change c s := s.change st c

variable {st} {s : Store} {env : Env} {o : Php.Observation}

variable (st) in
lemma session_changeState (s : Store) (new : ℕ) (hook : Bool) :
    (s.changeState st new hook).session = s.session := by
  unfold Store.changeState Store.session afterStatusChange
  dsimp only
  split_ifs <;> rfl

variable (st) in
lemma session_changes (s : Store) (cs : List Change) :
    (s.changes st cs).session = s.session := by
  have hchange : ∀ (s : Store) (c : Change), (s.change st c).session = s.session := by
    intro s c
    cases c with
    | setState new hook => exact session_changeState st s new hook
    | slip written =>
      show (s.slip written).session = _
      unfold Store.slip
      split_ifs <;> rfl
    | setModule | reprice | clearReview => rfl
  induction cs generalizing s with
  | nil => rfl
  | cons c cs ih => exact (ih (s.change st c)).trans (hchange s c)

lemma session_record (env : Env) (o : Php.Observation) (s : Store) :
    (s.record env o).2.session = s.session := by
  unfold Store.record
  split_ifs <;> rfl

variable (st) in
lemma session_setState (move : Move) (new : ℕ) (s : Store) :
    (setState st move new s).2.session = s.session := by
  unfold setState
  split_ifs
  · rfl
  · exact session_changeState st s new move.hook
  · rfl

lemma session_holdAndRecord (env : Env) (o : Php.Observation) (message : String) (s : Store) :
    (holdAndRecord st env o message s).2.session = s.session := by
  have h : (autoHold st env message s).2.session = s.session := by
    unfold autoHold
    dsimp only
    split
    · rfl
    split
    · rfl
    have h := session_setState st env.move st.hold ((s.note message).set
      { (s.note message).row with
        autoHold := true, preHoldState := (s.note message).order.currentState })
    split
    · next heq => exact (heq ▸ h :)
    · next heq =>
      rw [heq] at h
      split_ifs <;> exact h
  unfold holdAndRecord
  split
  · next heq => exact (heq ▸ h :)
  · next heq =>
    rw [heq] at h
    exact (session_record env o _).trans h

lemma session_complete (env : Env) (o : Php.Observation) (live : ℕ) (s : Store) :
    (complete st env o live s).2.session = s.session := by
  unfold complete
  split
  · rfl
  split
  · rfl
  split
  · rfl
  dsimp only
  generalize (if s.ownHold st && decide (0 < s.row.preHoldState) then s.row.preHoldState
    else st.payment) = new
  split
  all_goals
    next heq =>
      have h := congrArg (fun r => r.2.session) heq
      replace h := h.symm.trans (session_setState st env.move _ _)
      split_ifs
      all_goals first
        | exact h
        | exact (session_record env o _).trans h

lemma session_deliver (env : Env) (o : Php.Observation) (s : Store) :
    (deliver st env o s).session = s.session := by
  have h := session_changes st s env.meanwhile
  unfold deliver apply
  dsimp only
  split
  · rfl
  split
  · rfl
  split
  · rfl
  split
  · split
    · rfl
    · split
      · exact session_holdAndRecord env o _ _
      · exact session_record env o _
  split
  · split
    · exact session_holdAndRecord env o _ _
    · exact session_record env o _
  split
  · split
    · rfl
    · exact session_record env o _
  split
  · split
    · exact h
    · split
      · exact h
      · exact (session_complete env o _ _).trans h
  · refine (session_record env o _).trans ?_
    split_ifs <;> rfl

/-- What a delivery completes, the service has confirmed. -/
lemma completions_funded (env : Env) (o : Php.Observation) (s : Store) :
    (deliver st env o s).completions = s.completions ∨
      s.row.address ≠ none ∧ ∃ live, liveZat (serviceStatus env s.row) = some live ∧
        s.row.amountZat ≤ live := by
  have h := completions_changes st s env.meanwhile
  unfold deliver apply
  dsimp only
  split
  · exact .inl rfl
  split
  · exact .inl rfl
  next haddress =>
  split
  · exact .inl rfl
  split
  · split
    · exact .inl rfl
    · split
      · exact .inl (completions_holdAndRecord env o _ _)
      · exact .inl (completions_record env o _)
  split
  · split
    · exact .inl (completions_holdAndRecord env o _ _)
    · exact .inl (completions_record env o _)
  split
  · split
    · exact .inl rfl
    · exact .inl (completions_record env o _)
  split
  · split
    · exact .inl h
    · next live hlive =>
      split
      · exact .inl h
      · next hdue =>
        refine .inr ⟨fun hn => haddress ?_, live, hlive, by omega⟩
        simp [hn]
  · refine .inl ((completions_record env o _).trans ?_)
    split_ifs <;> rfl

variable (st) in
lemma startSession_session (env : CheckoutEnv) (s : Store) :
    (startSession st env s).2.completions = s.completions ∧
      ((startSession st env s).2.session = s.session ∨
        s.session = none ∧ ∃ r, env.session = some r ∧
          (startSession st env s).2.session = some (r.address, r.paymentId)) := by
  have hchanges := session_changes st s env.meanwhile
  have hcompletions := completions_changes st s env.meanwhile
  unfold startSession
  dsimp only
  split
  · exact ⟨rfl, .inl rfl⟩
  split
  · exact ⟨rfl, .inl rfl⟩
  split
  · split_ifs <;> exact ⟨rfl, .inl rfl⟩
  next hnone =>
  split
  · exact ⟨rfl, .inl rfl⟩
  split
  · exact ⟨rfl, .inl rfl⟩
  next amountZat _ =>
  split
  · exact ⟨hcompletions, .inl hchanges⟩
  next session hsession =>
  split
  · next address qrText haddress _ =>
    split
    · exact ⟨hcompletions, .inl hchanges⟩
    split
    · exact ⟨hcompletions, .inl hchanges⟩
    split
    · exact ⟨hcompletions, .inl hchanges⟩
    refine ⟨hcompletions, .inr ⟨by rw [Store.session, hnone]; rfl, session, hsession, ?_⟩⟩
    rw [← WooCommerce.nonEmpty?_eq haddress]
    rfl
  · exact ⟨hcompletions, .inl hchanges⟩

/-- What follows a failure keeps the session. -/
lemma validation_session (env : CheckoutEnv) (s : Store) :
    (validation st env s).2.completions = s.completions ∧
      ((validation st env s).2.session = s.session ∨
        s.session = none ∧ ∃ r, env.session = some r ∧
          (validation st env s).2.session = some (r.address, r.paymentId)) := by
  have h := startSession_session st env s
  unfold validation
  split
  · next heq => exact (heq ▸ h :)
  · next t heq =>
    rw [heq] at h
    dsimp only
    split_ifs
    · rw [completions_setState, session_setState]
      exact h
    · exact h

variable (st) in
lemma lawful : (plugin st).Lawful where
  deliver_session d body s := session_deliver _ _ _
  change_session c s := session_changes st s [c]
  checkout_session env answer s := by
    refine (validation_session { env with session := _ } s).2.imp_right ?_
    rintro ⟨hnone, r, hr, hs⟩
    obtain ⟨r', hr', rfl⟩ := Option.map_eq_some_iff.mp hr
    exact ⟨hnone, r', hr', fun _ => hs⟩
  change_completed c s := congrArg List.length (completions_changes st s [c])
  checkout_completed env answer s := congrArg List.length (validation_session _ s).1
  deliver_completed d body s h := by
    rcases completions_funded _ d.1 s with hsame | ⟨haddress, live, hlive, hdue⟩
    · exact absurd (congrArg List.length hsame) h
    obtain ⟨a, ha⟩ := Option.ne_none_iff_exists'.mp haddress
    have hsession : Store.session s = some (a.1, s.row.paymentId) :=
      congrArg (Option.map fun a : Php.NonEmpty => (a.1, s.row.paymentId)) ha
    rw [serviceStatus, hsession] at hlive
    split_ifs at hlive
    · cases body with
      | none => cases hlive
      | some answer =>
        exact ⟨a.1, s.row.paymentId, answer, live, hsession, rfl, .inr (.inr hlive),
          Int.ofNat_le.mpr hdue⟩
    · cases hlive

end PrestaShop

/-! ### Vendure -/

namespace Vendure

/-- `createPayment`, once the amount is converted: `none` is a payment that was declined. The
pattern of the id is that of `ctype_xdigit`. -/
def createPayment (code : String) (amountZat : ℕ) (session : Option PaymentSessionResponse) :
    Option Shop :=
  session.bind fun r =>
    if r.address = "" ∨ !Php.ctypeXdigit r.paymentId then none
    else some (issued code r.address r.paymentId amountZat)

def Shop.session (s : Shop) : Option (String × String) := do
  return (← s.payment.metadata.address, ← s.payment.metadata.paymentId)

inductive Change where
  | setOrderCancelled (cancelled : Bool)
  | setRefunds (refunds : List RefundState)
  | closePayment (state : {p : PaymentState // p ∈ closedPaymentStates})

def Change.act : Change → Act
  | setOrderCancelled cancelled => .setOrderCancelled cancelled
  | setRefunds refunds => .setRefunds refunds
  | closePayment state => .closePayment state

/-- A payment, `none` until it is created. What the handler is answered is given with a delivery. -/
def plugin : ShopPlugin where
  Order := Option Shop
  Delivery := Observation × Env
  Checkout := String × ℕ
  Change := Change
  session s := s.bind Shop.session
  dueZat s := (s.map Shop.dueZat).getD 0
  completed s := (s.map fun s => s.settlements.length).getD 0
  deliver d body s := s.map fun s =>
    let live := do
      let (address, _) ← s.session
      readStatus address (← body)
    deliver { d.2 with live } d.1 s
  checkout c answer s := s.or (createPayment c.1 c.2 answer)
  change c s := s.map fun s => s.act c.act

variable {s s' : Shop} {env : Env} {o : Observation}

/-- What a call that returns has settled, the service has confirmed. -/
lemma apply_funded {b : Body} (h : apply env o s = .ok (b, s')) : s'.session = s.session ∧
    (s'.settlements = s.settlements ∨ ∃ live, liveTotal env.live = some live ∧
      s.dueZat ≤ live) := by
  unfold apply at h
  dsimp only at h
  split at h
  case h_8 =>
    unfold confirm at h
    rcases hlive : liveTotal env.live with _ | live <;> rw [hlive] at h <;> dsimp only at h
    · cases h
    split_ifs at h with hdue
    · obtain rfl := (Prod.mk.inj (Except.ok.inj h)).2
      exact ⟨rfl, .inl rfl⟩
    split at h
    · cases h
    next s₁ hset =>
    split_ifs at h
    all_goals
      obtain rfl := (Prod.mk.inj (Except.ok.inj h)).2
      refine ⟨?_, .inr ⟨live, rfl, not_lt.mp hdue⟩⟩
      unfold orderServiceSettle at hset
      dsimp only at hset
      split at hset
      · obtain rfl := Except.ok.inj hset
        rfl
      · cases hset
  case h_4 =>
    split at h
    · cases h
    split_ifs at h <;> obtain rfl := (Prod.mk.inj (Except.ok.inj h)).2 <;> exact ⟨rfl, .inl rfl⟩
  all_goals
    obtain rfl := (Prod.mk.inj (Except.ok.inj h)).2
    exact ⟨rfl, .inl rfl⟩

lemma deliver_funded (env : Env) (o : Observation) (s : Shop) :
    (deliver env o s).session = s.session ∧ ((deliver env o s).settlements = s.settlements ∨
      ∃ live, liveTotal env.live = some live ∧ s.dueZat ≤ live) := by
  unfold deliver
  split
  · next h =>
    split_ifs
    · exact ⟨rfl, .inl rfl⟩
    · exact apply_funded h
  · exact ⟨rfl, .inl rfl⟩

lemma act_change (s : Shop) (c : Change) :
    (s.act c.act).session = s.session ∧ (s.act c.act).settlements = s.settlements := by
  cases c <;> exact ⟨rfl, rfl⟩

lemma createPayment_session (code : String) (amountZat : ℕ)
    (session : Option PaymentSessionResponse) :
    createPayment code amountZat session = none ∨ ∃ r, session = some r ∧
      createPayment code amountZat session =
        some (issued code r.address r.paymentId amountZat) := by
  cases session with
  | none => exact .inl rfl
  | some r =>
    unfold createPayment
    rw [Option.bind_some]
    split_ifs
    · exact .inl rfl
    · exact .inr ⟨r, rfl, rfl⟩

lemma lawful : plugin.Lawful where
  deliver_session d body s := by
    cases s with
    | none => rfl
    | some s => exact (deliver_funded _ d.1 s).1
  change_session c s := by
    cases s with
    | none => rfl
    | some s => exact (act_change s c).1
  checkout_session c answer s := by
    cases s with
    | some s => exact .inl rfl
    | none =>
      rcases createPayment_session c.1 c.2 answer with h | ⟨r, hr, h⟩
      · exact .inl (congrArg (Option.bind · Shop.session) h)
      · exact .inr ⟨rfl, r, hr, fun _ => congrArg (Option.bind · Shop.session) h⟩
  change_completed c s := by
    cases s with
    | none => rfl
    | some s => exact congrArg List.length (act_change s c).2
  checkout_completed c answer s := by
    cases s with
    | some s => rfl
    | none =>
      rcases createPayment_session c.1 c.2 answer with h | ⟨r, -, h⟩
      all_goals exact congrArg (fun s => (s.map fun s : Shop => s.settlements.length).getD 0) h
  deliver_completed d body s h := by
    cases s with
    | none => exact absurd rfl h
    | some s =>
      rcases (deliver_funded _ d.1 s).2 with hsame | ⟨live, hlive, hdue⟩
      · exact absurd (congrArg List.length hsame) h
      rcases hsession : s.session with _ | ⟨address, paymentId⟩ <;> rw [hsession] at hlive
      · cases hlive
      cases body with
      | none => cases hlive
      | some answer => exact ⟨address, paymentId, answer, live, hsession, rfl, .inl hlive, hdue⟩

end Vendure

/-! ### Medusa -/

namespace Medusa

open Prog (Triple)

/-- `initiatePayment`, once the amount is converted: `none` is a session that was not created.
`placed` says that its cart is an order by the time anything else is done. -/
def initiatePayment (amountZat : ℕ) (priced : String) (placed : Bool)
    (session : Option PaymentSessionResponse) : Option Store :=
  session.bind fun r =>
    if r.address = "" ∨ !Php.ctypeXdigit r.paymentId then none
    else some (issued r.address r.paymentId amountZat priced placed)

def Store.sessionKey (s : Store) : String × String := (s.session.address, s.session.paymentId)

/-- What the shop, the payer and the merchant do. The plugin refuses to change the amount of a
session that has its address. -/
inductive Change where
  | reprice (price : String)
  | cancelSession
  | placeOrder
  | cancelOrder
  | refund
  | setHold (message : Option String)

def Store.change (s : Store) : Change → Store
  | .reprice price => { s with session := { s.session with price } }
  | .cancelSession => { s with session := { s.session with canceled := true } }
  | .placeOrder => { s with order := some (s.order.getD {}) }
  | .cancelOrder => { s with order := s.order.map fun o => { o with canceled := true } }
  | .refund => { s with session := { s.session with
      payment := s.session.payment.map fun p => { p with refunds := p.refunds + 1 } } }
  | .setHold message => s.setHold message

def plugin : ShopPlugin where
  Order := Option Store
  Delivery := Attempt
  Checkout := ℕ × String × Bool
  Change := Change
  session s := s.map Store.sessionKey
  dueZat s := (s.map Store.dueZat).getD 0
  completed s := (s.map Store.captures).getD 0
  deliver a body s := s.map fun s =>
    let live := do readStatus s.session.address (← body)
    (s.attempt { a with env := { a.env with live } }).2
  checkout c answer s := s.or (initiatePayment c.1 c.2.1 c.2.2 answer)
  change c s := s.map fun s => s.change c

variable {s : Store} {env : Env} {o : Observation} {I : Store → Prop}

/-- A fact that no write but the capture's can change. -/
structure Untouched (I : Store → Prop) : Prop where
  setHold : ∀ t m, I t → I (t.setHold m)
  setReview : ∀ t m, I t → I (t.setReview m)
  emit : ∀ t e, I t → I (t.emit e)
  record : ∀ t z, I t → I (t.record z)

/-- The route keeps `I` whether it returns or fails. -/
abbrev KeepsTrue (I : Store → Prop) {α : Type} (m : Route α) : Prop :=
  Triple I m (fun _ => I) (fun _ => I)

lemma perform_keepsTrue {e : Effect} {f : Store → Store} (hf : ∀ t, I t → I (f t)) :
    KeepsTrue I (perform env e f) := by
  intro t ht
  unfold perform
  rcases env.faults e with _ | fault
  · exact hf t ht
  · cases fault
    · exact ht
    · exact hf t ht

lemma liveTotalZat_keepsTrue (env : Env) : Triple I (liveTotalZat env)
    (fun live t => liveTotal env.live = some live ∧ I t) (fun _ => I) := by
  unfold liveTotalZat
  cases h : liveTotal env.live with
  | none => exact Triple.stop fun _ h => h
  | some zat => exact Triple.pure fun _ h => ⟨rfl, h⟩

namespace Untouched

lemma setOrderMetadata (order : Option Order) {e : Effect} {f : Store → Store}
    (hf : ∀ t, I t → I (f t)) : KeepsTrue I (setOrderMetadata env e order f) :=
  Triple.ite (fun _ => perform_keepsTrue hf) fun _ => Triple.pure fun _ h => h

lemma updateHold (h : Untouched I) (order : Option Order) (held : Option String)
    (message : String) : KeepsTrue I (updateHold env order held message) :=
  (setOrderMetadata order fun t => h.setHold t held).bind fun _ =>
    perform_keepsTrue fun t => h.emit t _

lemma hold (h : Untouched I) (s : Store) (next : ZcashState) (message : String) :
    KeepsTrue I (hold env s next message) :=
  Triple.ite (fun _ => Triple.pure fun _ h => h) fun _ =>
    Triple.ite (fun _ => Triple.pure fun _ h => h) fun _ =>
      (h.updateHold s.order _ message).bind fun _ => Triple.pure fun _ h => h

lemma updateSession (h : Untouched I) (next : ZcashState) :
    KeepsTrue I (updateSession env next) :=
  (perform_keepsTrue fun t => h.record t next).bind fun _ => Triple.pure fun _ h => h

lemma capture (h : Untouched I) (hprocess : ∀ t run, I t → I (t.process run))
    (next : ZcashState) : KeepsTrue I (capture env o next) := by
  refine (Triple.get (Q := fun _ => I) fun _ h => h).bind fun t => ?_
  refine Triple.ite (fun _ => Triple.stop fun _ h => h) fun _ => ?_
  refine (perform_keepsTrue fun t => hprocess t _).bind fun _ => ?_
  refine (Triple.get (Q := fun _ => I) fun _ h => h).bind fun t => ?_
  refine Triple.ite (fun _ => Triple.stop fun _ h => h) fun _ => ?_
  refine Triple.ite (fun _ => ?_) fun _ => h.updateSession _
  exact (setOrderMetadata t.order fun t => h.setReview t _).bind fun _ => h.updateSession _

/-- What holds before an attempt holds after it, if it holds after the capture that the service's
answer allows. -/
lemma apply (h : Untouched I) (hprocess : ∀ live, liveTotal env.live = some live →
      s.dueZat ≤ live → ∀ t run, I t → I (t.process run)) :
    Triple (fun t => t = s ∧ I t) (apply env o) (fun _ => I) (fun _ => I) := by
  refine (Triple.get (Q := fun a t => a = s ∧ I t) ?_).bind fun a => Triple.of_pure ?_
  · rintro t ⟨rfl, ht⟩
    exact ⟨rfl, ht⟩
  rintro rfl
  refine Triple.ite (fun _ => Triple.pure fun _ h => h) fun _ => ?_
  dsimp only
  split
  · exact Triple.pure fun _ h => h
  · refine (setOrderMetadata a.order fun t => h.setReview t _).bind fun _ => ?_
    exact Triple.ite (fun _ => (h.hold a _ _).bind fun _ => h.updateSession _)
      fun _ => h.updateSession _
  · exact (h.hold a _ _).bind fun _ => h.updateSession _
  · refine (liveTotalZat_keepsTrue env).bind fun live => Triple.of_pure fun _ => ?_
    refine Triple.ite (fun _ => Triple.pure fun _ h => h) fun _ => ?_
    exact Triple.ite (fun _ => (h.updateHold a.order _ _).bind fun _ => h.updateSession _)
      fun _ => h.updateSession _
  · exact h.updateSession _
  · exact h.updateSession _
  · exact h.updateSession _
  · refine (liveTotalZat_keepsTrue env).bind fun live => Triple.of_pure fun hlive => ?_
    refine Triple.ite (fun _ => Triple.pure fun _ h => h) fun hdue => ?_
    exact h.capture (hprocess live hlive (not_lt.mp hdue)) _

end Untouched

lemma sessionKey_process (s : Store) (run : WorkflowRun) :
    (s.process run).sessionKey = s.sessionKey := by
  unfold Store.process
  dsimp only
  split_ifs <;> rfl

/-- What an attempt captures, the service has confirmed. -/
lemma attempt_funded (s : Store) (a : Attempt) :
    (s.attempt a).2.sessionKey = s.sessionKey ∧ ((s.attempt a).2.captures = s.captures ∨
      ∃ live, liveTotal a.env.live = some live ∧ s.dueZat ≤ live) := by
  have hkey : Untouched fun t => t.sessionKey = s.sessionKey :=
    ⟨fun _ _ h => h, fun _ _ h => h, fun _ _ h => h, fun _ _ h => h⟩
  have hcaptures : Untouched fun t => t.captures = s.captures :=
    ⟨fun _ _ h => h, fun _ _ h => h, fun _ _ h => h, fun _ _ h => h⟩
  refine ⟨?_, ?_⟩
  · exact (hkey.apply (s := s) fun _ _ _ t run h => (sessionKey_process t run).trans h).final
      ⟨rfl, rfl⟩
  · by_cases hlive : ∃ live, liveTotal a.env.live = some live ∧ s.dueZat ≤ live
    · exact .inr hlive
    · refine .inl ((hcaptures.apply (s := s) fun live h hdue => ?_).final ⟨rfl, rfl⟩)
      exact absurd ⟨live, h, hdue⟩ hlive

lemma change_kept (s : Store) (c : Change) :
    (s.change c).sessionKey = s.sessionKey ∧ (s.change c).captures = s.captures := by
  cases c <;> exact ⟨rfl, rfl⟩

lemma initiatePayment_session (amountZat : ℕ) (priced : String) (placed : Bool)
    (session : Option PaymentSessionResponse) :
    initiatePayment amountZat priced placed session = none ∨ ∃ r, session = some r ∧
      initiatePayment amountZat priced placed session =
        some (issued r.address r.paymentId amountZat priced placed) := by
  cases session with
  | none => exact .inl rfl
  | some r =>
    unfold initiatePayment
    rw [Option.bind_some]
    split_ifs
    · exact .inl rfl
    · exact .inr ⟨r, rfl, rfl⟩

lemma lawful : plugin.Lawful where
  deliver_session a body s := by
    cases s with
    | none => rfl
    | some s => exact congrArg some (attempt_funded s _).1
  change_session c s := by
    cases s with
    | none => rfl
    | some s => exact congrArg some (change_kept s c).1
  checkout_session c answer s := by
    cases s with
    | some s => exact .inl rfl
    | none =>
      rcases initiatePayment_session c.1 c.2.1 c.2.2 answer with h | ⟨r, hr, h⟩
      · exact .inl (congrArg (Option.map Store.sessionKey) h)
      · exact .inr ⟨rfl, r, hr, fun _ => congrArg (Option.map Store.sessionKey) h⟩
  change_completed c s := by
    cases s with
    | none => rfl
    | some s => exact (change_kept s c).2
  checkout_completed c answer s := by
    cases s with
    | some s => rfl
    | none =>
      rcases initiatePayment_session c.1 c.2.1 c.2.2 answer with h | ⟨r, -, h⟩
      all_goals exact congrArg (fun s => (s.map Store.captures).getD 0) h
  deliver_completed a body s h := by
    cases s with
    | none => exact absurd rfl h
    | some s =>
      rcases (attempt_funded s _).2 with hsame | ⟨live, hlive, hdue⟩
      · exact absurd hsame h
      cases body with
      | none => cases hlive
      | some answer =>
        exact ⟨s.session.address, s.session.paymentId, answer, live, rfl, rfl, .inl hlive, hdue⟩

end Medusa

end ZcashPayment

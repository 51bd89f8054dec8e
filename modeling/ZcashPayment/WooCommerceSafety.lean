import ZcashPayment.OrderLifecycle
import ZcashPayment.WooCommerce

/-!
The WooCommerce plugin takes no step that a plugin may not take.

A delivery is what others do while the service is asked, and then one step of the plugin. The
order's safety over every run is read off the lifecycle.
-/

namespace ZcashPayment.WooCommerce

open Lifecycle (Statuses Others Issued Delivered Steps Sound)

variable {s : Store} {order : Order} {env : Env} {o : Php.Observation}

/-! ### What the rules see of an order -/

def statuses : Statuses Status where
  hold := .onHold
  Paid status := status = .processing ∨ status = .completed
  Closed status := status ∈ closedStatuses
  Open status := status = .pending
  hold_unpaid := by simp
  hold_not_closed := by decide
  hold_not_open := by simp
  paid_not_open := by rintro _ (rfl | rfl) <;> simp
  closed_not_open := by rintro _ h rfl; revert h; decide
  closed_unpaid := by
    rintro _ h (rfl | rfl) <;> revert h <;> decide

def Completion.taking (c : Completion) : Lifecycle.Taking Status where
  event := c.event
  live := c.live
  ours := decide (c.before.paymentMethod = id)
  price := c.before.pricedNow
  review := c.before.needsReview
  own := c.before.autoHold
  before := c.before.status
  after := c.after

def Order.view (order : Order) (completions : List Completion) : Lifecycle.Order Status where
  status := order.status
  ours := decide (order.paymentMethod = id)
  price := order.pricedNow
  issue := order.address.map fun a => ⟨a.1, order.amountZat, order.priced⟩
  version := order.stateVersion
  received := order.receivedZat
  review := order.needsReview
  mark := if order.autoHold then some order.preHold else none
  takings := completions.map Completion.taking

def Store.view (s : Store) : Lifecycle.Order Status := s.order.view s.completions

def event (o : Php.Observation) : Lifecycle.Event := ⟨o.stateVersion, o.settledZat⟩

@[simp] lemma view_note (s : Store) (text : String) : (s.note text).view = s.view := rfl

@[simp] lemma view_save (s : Store) (order : Order) :
    (s.save order).view = order.view s.completions := rfl

@[simp] lemma view_record (s : Store) (o : Php.Observation) (order : Order) :
    (s.record o order).view = { order.view s.completions with
      version := o.stateVersion, received := o.settledZat } := rfl

lemma paid_iff : statuses.Paid order.status ↔ order.isPaid = true := by
  simp [statuses, Order.isPaid]

lemma closed_iff : statuses.Closed order.status ↔ order.isClosed = true := by
  simp [statuses, Order.isClosed]

lemma mark_ne_none (cs : List Completion) :
    (order.view cs).mark ≠ none ↔ order.autoHold = true := by
  simp [Order.view]

/-! ### Others -/

/-- The hook ends the plugin's hold when the order leaves it, and sets a closed order aside. -/
lemma setStatus_eq (order : Order) (new : Status) : order.setStatus new =
    { order with
      status := new
      autoHold := order.autoHold && !decide (order.status = .onHold ∧ new ≠ .onHold)
      preHold := if order.autoHold = true ∧ order.status = .onHold ∧ new ≠ .onHold then none
        else order.preHold
      needsReview := order.needsReview || (decide (order.status ≠ new) &&
        closedStatuses.contains new && order.address.isSome) } := by
  unfold Order.setStatus statusChanged
  by_cases h : order.status = new
  · subst h
    simp
  · rw [if_neg h]
    by_cases hh : order.status = .onHold
    · have hne : new ≠ .onHold := fun hn => h (hh.trans hn.symm)
      cases ha : order.autoHold <;> cases hc : closedStatuses.contains new <;>
        rcases hi : order.address with _ | a <;> simp [hh, hne, hne.symm]
    · cases hc : closedStatuses.contains new <;> rcases hi : order.address with _ | a <;>
        simp [hh, h]

lemma status_setStatus (order : Order) (new : Status) : (order.setStatus new).status = new := by
  rw [setStatus_eq]

/-- What the hook makes of the hold markers. -/
lemma mark_setStatus (order : Order) (new : Status) (cs : List Completion) :
    ((order.setStatus new).view cs).mark =
      if order.status = .onHold ∧ new ≠ .onHold then none else (order.view cs).mark := by
  rw [setStatus_eq]
  by_cases h : order.status = .onHold ∧ new ≠ .onHold <;> simp [Order.view, h]

lemma change_others (s : Store) (c : Change) : Others statuses true s.view (s.change c).view := by
  cases c with
  | setStatus new =>
    have hmark := mark_setStatus s.order new s.completions
    have hview : (s.change (.setStatus new)).view = (s.order.setStatus new).view s.completions :=
      rfl
    rw [hview]
    refine
      { issue := by rw [setStatus_eq]; rfl
        version := by rw [setStatus_eq]; rfl
        received := by rw [setStatus_eq]; rfl
        takings := rfl
        mark := ?_
        left := ?_
        closed := ?_ }
    · rw [hmark]
      split_ifs
      · exact .inl rfl
      · exact .inr rfl
    · intro _ hm hs
      rw [hmark] at hm
      show (s.order.setStatus new).status = .onHold
      rw [status_setStatus]
      by_contra hne
      exact hm (if_pos ⟨hs, hne⟩)
    · intro _ hi hs hc
      have hs' : new ≠ s.order.status := by
        simpa [Store.view, Order.view, status_setStatus] using hs
      have hc' : new ∈ closedStatuses := by
        simpa [statuses, Order.view, status_setStatus] using hc
      have hi' : s.order.address.isSome = true := by
        simpa [Store.view, Order.view, Option.isSome_iff_ne_none] using hi
      show (s.order.setStatus new).needsReview = true
      rw [setStatus_eq]
      simp [hs'.symm, hc', hi']
  | refund =>
    show Others statuses true s.view (s.order.refunded.view s.completions)
    unfold Order.refunded
    split_ifs
    · exact ⟨rfl, rfl, rfl, rfl, .inr rfl, fun _ _ h => h, fun _ _ h => absurd rfl h⟩
    · exact ⟨rfl, rfl, rfl, rfl, .inr rfl, fun _ _ h => h, fun _ _ h => absurd rfl h⟩
  | setPaymentMethod | reprice | clearReview =>
    exact ⟨rfl, rfl, rfl, rfl, .inr rfl, fun _ _ h => h, fun _ _ h => absurd rfl h⟩

lemma changes_steps (s : Store) (cs : List Change) :
    Steps statuses true s.view (s.changes cs).view := by
  induction cs generalizing s with
  | nil => exact .refl
  | cons c cs ih => exact .head (.others (change_others s c)) (ih (s.change c))

/-- What the changes leave alone. -/
lemma changes_same (s : Store) (cs : List Change) :
    (s.changes cs).view.issue = s.view.issue ∧ (s.changes cs).view.version = s.view.version := by
  induction cs generalizing s with
  | nil => exact ⟨rfl, rfl⟩
  | cons c cs ih =>
    have h := change_others s c
    exact ⟨(ih (s.change c)).1.trans h.issue, (ih (s.change c)).2.trans h.version⟩

/-! ### Deliveries -/

lemma issue_of_address (hi : s.order.address ≠ none) :
    ∃ i, s.view.issue = some i ∧ i.due = s.order.amountZat ∧ i.price = s.order.priced := by
  obtain ⟨a, ha⟩ := Option.ne_none_iff_exists'.mp hi
  exact ⟨⟨a.1, s.order.amountZat, s.order.priced⟩, by simp [Store.view, Order.view, ha], rfl, rfl⟩

lemma short_iff (hi : s.order.address ≠ none) :
    s.view.Short (event o) ↔ 0 < s.order.amountZat ∧ o.settledZat < s.order.amountZat := by
  obtain ⟨i, hi, hdue, -⟩ := issue_of_address hi
  rw [Lifecycle.short_iff i hi, hdue]
  show o.settledZat < s.order.amountZat ↔ _
  omega

lemma covers_of (hi : s.order.address ≠ none) {zat : ℕ}
    (h : 0 < s.order.amountZat ∧ s.order.amountZat ≤ zat) : s.view.Covers zat := by
  obtain ⟨i, hi, hdue, -⟩ := issue_of_address hi
  rw [Lifecycle.covers_iff i hi, hdue]
  exact h

/-- A paid order is not held, so it carries no marker. -/
lemma unmarked_of_paid (hs : Sound statuses true s.view) (hp : s.order.isPaid = true) :
    s.view.mark = none := by
  by_contra hm
  have : s.order.status = .onHold := hs.own rfl hm
  simp [Order.isPaid, this] at hp

/-- Holding a paid order that is short of its funds: it is held, or nothing but the review flag
changes and the event comes again. -/
lemma held_delivered (hs : Sound statuses true s.view) (hi : s.order.address ≠ none)
    (hv : s.order.stateVersion < o.stateVersion) (hp : s.order.isPaid = true)
    (ho : s.order.paymentMethod = id)
    (hshort : 0 < s.order.amountZat ∧ o.settledZat < s.order.amountZat)
    {review : Bool} (hr : s.order.needsReview = true → review = true) {s' : Store}
    (hs' : s'.completions = s.completions) (message : String) :
    Delivered statuses true (event o) s.view
      (match autoHold env { s.order with needsReview := review } message s' with
        | (none, t) => (couldNotHold, t)
        | (some held, t) => (Response.ok, t.record o held)).2.view := by
  have hst : s.order.status ≠ .onHold := by
    rintro h
    simp [Order.isPaid, h] at hp
  have hmark := unmarked_of_paid hs hp
  unfold autoHold
  rw [if_neg hst]
  dsimp only
  cases hm : env.moves with
  | true =>
    have hheld : Order.setStatus { s.order with
          needsReview := review, autoHold := true, preHold := some s.order.status } .onHold
        = { s.order with
          needsReview := review, autoHold := true, preHold := some s.order.status,
          status := .onHold } := by
      rw [setStatus_eq]
      simp [closedStatuses]
    rw [if_pos rfl, hheld]
    have : Delivered statuses true (event o) s.view _ := .held review true
      hv hr (paid_iff.mpr hp) (by simpa [Store.view, Order.view] using ho)
      ((short_iff hi).mpr hshort)
    simpa [Store.view, Order.view, Order.pricedNow, event, statuses, Store.record, Store.save,
      Store.note, hs'] using this
  | false =>
    rw [if_neg (by simp)]
    have : Delivered statuses true (event o) s.view _ := .kept review
      s.order.receivedZat none hv hr (.inl rfl) (.inl hmark.symm)
    simpa [Store.view, Order.view, Order.pricedNow, Store.save, hs'] using this

/-- What was checked when the order was read again. -/
structure Ready (order : Order) : Prop where
  status : order.status = .pending ∨ order.status = .onHold
  ours : order.paymentMethod = id
  reviewed : order.needsReview = false
  price : order.priced = order.pricedNow
  own : order.status = .onHold → order.autoHold = true

lemma ready_spec (h : order.ready = true) : Ready order := by
  simp only [Order.ready, Bool.and_eq_true, decide_eq_true_eq, Bool.not_eq_true',
    Bool.and_eq_false_imp] at h
  obtain ⟨⟨⟨⟨⟨-, h1⟩, h2⟩, h3⟩, h4⟩, h5⟩ := h
  exact ⟨h1, h2, h3, h4, fun h => by simpa using h5 h⟩

lemma Ready.paid_preHold (h : Ready s.order) (hs : Sound statuses true s.view)
    (hh : s.order.status = .onHold) {preHold : Status} (hpre : s.order.preHold = some preHold) :
    statuses.Paid preHold :=
  hs.remembered preHold (by simpa [Store.view, Order.view, h.own hh] using hpre)

lemma Ready.paymentComplete (h : Ready order) (receivedZat : ℕ) (needsProcessing : Bool) :
    Order.paymentComplete { order with receivedZat } needsProcessing =
      Order.setStatus { order with receivedZat }
        (if needsProcessing then .processing else .completed) := by
  unfold Order.paymentComplete
  rw [if_pos]
  rcases h.status with h | h <;> simp [h]

lemma paid_completed (needsProcessing : Bool) :
    statuses.Paid (if needsProcessing then Status.processing else .completed) := by
  cases needsProcessing
  · exact .inr rfl
  · exact .inl rfl

/-- Completing an order that was read again: it gets a paid status, or nothing but the recorded
amount changes and the event comes again. -/
lemma complete_delivered (hs : Sound statuses true s.view) (hi : s.order.address ≠ none)
    (hv : s.order.stateVersion < o.stateVersion) {live : ℕ}
    (hdue : 0 < s.order.amountZat ∧ s.order.amountZat ≤ o.settledZat)
    (hlive : s.order.amountZat ≤ live) :
    Delivered statuses true (event o) s.view (complete env o live s).2.view := by
  obtain ⟨i, hissue, hidue, hprice⟩ := issue_of_address hi
  unfold complete
  by_cases hready : s.order.ready = true
  · have hspec := ready_spec hready
    obtain ⟨hst, ho, hr, hp, hown⟩ := ready_spec hready
    simp only [hready, Bool.not_true, Bool.false_eq_true, if_false]
    -- The event is not recorded: only the amount is.
    have hkept : Delivered statuses true (event o) s.view _ := .kept
      s.order.needsReview o.settledZat s.view.mark hv (fun h => h)
      (.inr ⟨covers_of hi hdue, rfl⟩) (.inl rfl)
    -- The order gets the status `new`.
    have htaken : ∀ new, statuses.Paid new →
        (s.order.status = .onHold → ∀ p, s.order.preHold = some p → new = p) →
        Delivered statuses true (event o) s.view
          { s.view with
            status := new, mark := none, version := o.stateVersion, received := o.settledZat
            takings := s.view.takings ++
              [Completion.taking ⟨o.settledZat, live, s.order, new⟩] } := by
      intro new hnew hafter
      refine Delivered.taken (Completion.taking ⟨o.settledZat, live, s.order, new⟩) true none hv
        ?_ ?_ (covers_of hi hdue) (.inl rfl)
      · refine ⟨rfl, rfl, rfl, rfl, ?_, rfl, fun p hb hm => ?_⟩
        · cases ha : s.order.autoHold <;> simp [Completion.taking, Store.view, Order.view, ha]
        · refine hafter hb p ?_
          have ha : s.order.autoHold = true := hown hb
          simpa [Store.view, Order.view, ha] using hm
      · intro j hj
        obtain rfl := Option.some.inj (hissue.symm.trans hj)
        refine ⟨hidue ▸ hdue.1, hidue ▸ hdue.2, hidue ▸ hlive, ?_, ?_, hr, ?_, hnew⟩
        · simpa [Completion.taking] using ho
        · exact hp.symm.trans hprice.symm
        · rcases hst with h | h
          · exact .inl h
          · exact .inr ⟨h, hown h⟩
    -- What is stored once the status has changed.
    have hstored : ∀ new, statuses.Paid new → ∀ t : Store,
        (({ t.record o (Order.setStatus { s.order with receivedZat := o.settledZat } new) with
          completions := s.completions ++ [⟨o.settledZat, live, s.order,
            (Order.setStatus { s.order with receivedZat := o.settledZat } new).status⟩] } :
          Store)).view =
        { s.view with
          status := new, mark := none, version := o.stateVersion, received := o.settledZat
          takings := s.view.takings ++
            [Completion.taking ⟨o.settledZat, live, s.order, new⟩] } := by
      intro new hnew t
      have hm : ((Order.setStatus { s.order with receivedZat := o.settledZat } new).view
          s.completions).mark = none := by
        rw [mark_setStatus]
        split_ifs with h
        · rfl
        · by_contra hm
          have hh : s.order.status = .onHold := hs.own rfl hm
          refine h ⟨hh, ?_⟩
          rintro rfl
          exact statuses.hold_unpaid hnew
      have hc : new ∉ closedStatuses := fun h => statuses.closed_unpaid new h hnew
      refine Lifecycle.Order.ext ?_ ?_ ?_ ?_ rfl rfl ?_ hm ?_
      · exact status_setStatus _ _
      · rw [setStatus_eq]; rfl
      · rw [setStatus_eq]; rfl
      · rw [setStatus_eq]; rfl
      · show (Order.setStatus _ new).needsReview = s.order.needsReview
        rw [setStatus_eq]
        simp [hc]
      · simp [Store.view, Order.view, status_setStatus]
    split
    · next preHold hh hpre =>
      have hhold : s.order.status = .onHold := by simpa using hh
      have hpp := hspec.paid_preHold hs hhold hpre
      cases env.moves with
      | true =>
        rw [if_pos rfl, hstored preHold hpp]
        exact htaken preHold hpp fun _ p hp' => Option.some.inj (hpre.symm.trans hp')
      | false => exact hkept
    · next hnot =>
      cases env.moves with
      | true =>
        rw [if_pos rfl]
        simp only [hspec.paymentComplete]
        rw [hstored _ (paid_completed _)]
        refine htaken _ (paid_completed _) fun hh p hp' => ?_
        exact absurd hp' (by simpa using hnot p (by simpa using hh))
      | false => exact hkept
  · have : s.order.ready = false := by simpa using hready
    rw [this]
    exact .ignored

lemma recorded_delivered (hv : s.order.stateVersion < o.stateVersion) {review : Bool}
    (hr : s.order.needsReview = true → review = true)
    (hf : s.order.isPaid = true → s.order.paymentMethod = id → ¬s.view.Short (event o))
    {s' : Store} (hs' : s'.completions = s.completions) :
    Delivered statuses true (event o) s.view
      (s'.record o { s.order with needsReview := review }).view := by
  have : Delivered statuses true (event o) s.view _ := .recorded review hv
    hr fun hp ho => hf (paid_iff.mp hp) (by simpa [Store.view, Order.view] using ho)
  simpa [Store.view, Order.view, Order.pricedNow, event, Store.record, Store.save, hs'] using this

/-- **One delivery**: what others did until the service answered, if it was asked, and then one
step that a plugin may take. -/
theorem deliver_cases (env : Env) (o : Php.Observation) (hs : Sound statuses true s.view) :
    deliver env o s = s ∨ s.order.address.map (·.1) = some o.address ∧
      ∃ s₁, (s₁ = s ∨ s₁ = s.changes env.meanwhile ∧ reviewNote s.order o.settledZat = none ∧
          s.order.isClosed = false) ∧
        Delivered statuses true (event o) s₁.view (deliver env o s).view := by
  unfold deliver apply
  dsimp only
  by_cases haddr : s.order.address.map (·.1) = some o.address
  swap
  · rw [if_pos haddr]
    exact .inl rfl
  rw [if_neg (not_not.mpr haddr)]
  by_cases hv : o.stateVersion ≤ s.order.stateVersion
  · rw [if_pos hv]
    exact .inl rfl
  rw [if_neg hv]
  rw [not_le] at hv
  have hi : s.order.address ≠ none := by
    rintro h
    simp [h] at haddr
  refine .inr ⟨haddr, ?_⟩
  have hshort := short_iff (o := o) hi
  rcases hnote : reviewNote s.order o.settledZat with _ | note
  · dsimp only
    by_cases hp : s.order.isPaid = true
    · have ho : s.order.paymentMethod = id := by
        by_contra ho
        unfold reviewNote at hnote
        dsimp only at hnote
        split_ifs at hnote
      refine ⟨s, .inl rfl, ?_⟩
      rw [if_pos hp]
      by_cases hsh : 0 < s.order.amountZat ∧ o.settledZat < s.order.amountZat
      · simp only [hsh, and_self, decide_true, if_true]
        exact held_delivered hs hi hv hp ho hsh (fun h => h) rfl _
      · simp only [hsh, decide_false, Bool.false_eq_true, if_false]
        exact recorded_delivered hv (fun h => h) (fun _ _ h => hsh (hshort.mp h)) rfl
    · rw [if_neg hp]
      by_cases hc : s.order.isClosed = true
      · rw [if_pos hc]
        exact ⟨s, .inl rfl, recorded_delivered hv (fun _ => rfl) (fun h => absurd h hp) rfl⟩
      · rw [if_neg hc]
        by_cases hdue : 0 < s.order.amountZat ∧ s.order.amountZat ≤ o.settledZat
        · rw [if_pos hdue]
          refine ⟨s.changes env.meanwhile, .inr ⟨rfl, rfl, by simpa using hc⟩, ?_⟩
          obtain ⟨hissue, hversion⟩ := changes_same s env.meanwhile
          cases hlive : Php.liveZat (serviceStatus env s.order) with
          | none => exact .ignored
          | some live =>
            dsimp only
            split_ifs with hlt
            · exact .ignored
            · obtain ⟨i, hi', hd, -⟩ := issue_of_address hi
              have hi₁ : (s.changes env.meanwhile).order.address ≠ none := by
                intro hn
                rw [hi'] at hissue
                simp [Store.view, Order.view, hn] at hissue
              obtain ⟨j, hj, hd', -⟩ := issue_of_address hi₁
              obtain rfl : j = i := Option.some.inj (hj.symm.trans (hissue.trans hi'))
              have hamount := hd'.symm.trans hd
              refine complete_delivered (hs.steps (changes_steps s _)) hi₁ ?_ ?_ ?_
              · exact hversion.trans_lt hv
              · rw [hamount]
                exact hdue
              · rw [hamount]
                exact not_lt.mp hlt
        · rw [if_neg hdue]
          refine ⟨s, .inl rfl, ?_⟩
          refine recorded_delivered hv (fun h => h) (fun h => absurd h hp) ?_
          split_ifs <;> rfl
  · dsimp only
    refine ⟨s, .inl rfl, ?_⟩
    by_cases hsh : s.order.isPaid = true ∧
        (0 < s.order.amountZat ∧ o.settledZat < s.order.amountZat) ∧ s.order.paymentMethod = id
    · obtain ⟨hp, hsh, ho⟩ := hsh
      have hp' : Order.isPaid { s.order with needsReview := true } = true := hp
      have hcond : (Order.isPaid { s.order with needsReview := true } &&
          decide (0 < s.order.amountZat ∧ o.settledZat < s.order.amountZat) &&
          decide (s.order.paymentMethod = id)) = true := by
        rw [hp', decide_eq_true hsh, decide_eq_true ho]
        rfl
      rw [if_pos hcond]
      have hsame : (s.note note).completions = s.completions := rfl
      exact held_delivered hs hi hv hp ho hsh (fun _ => rfl) hsame _
    · rw [if_neg]
      · exact recorded_delivered hv (fun _ => rfl) (fun hp ho h => hsh ⟨hp, hshort.mp h, ho⟩) rfl
      · simpa [Order.isPaid, and_assoc] using hsh

/-! ### Every run -/

lemma unchanged_spec {wasFailed : Bool} {priced : String}
    (h : order.unchanged wasFailed priced = true) :
    order.status ≠ .onHold ∧ order.pricedNow = priced := by
  simp only [Order.unchanged, Bool.and_eq_true, decide_eq_true_eq, Bool.not_eq_true'] at h
  obtain ⟨⟨⟨-, hc⟩, -⟩, hp⟩ := h
  refine ⟨fun hs => ?_, hp⟩
  simp [hs] at hc

/-- **One checkout**: what others did until the service answered, and then nothing or the issue of
an address. -/
lemma checkout_steps (env : CheckoutEnv) (s : Store) :
    Steps statuses true s.view (startSession env s).2.view := by
  unfold startSession
  dsimp only
  rcases ha : s.order.address with _ | a
  swap
  · dsimp only
    split_ifs <;> exact .refl
  rcases env.amountZat with _ | amountZat
  · exact .refl
  have hmeanwhile := changes_steps s env.meanwhile
  dsimp only
  rcases env.session with _ | session
  · exact hmeanwhile
  dsimp only
  split
  swap
  · exact hmeanwhile
  next address qrText _ _ =>
  by_cases hid : (!Php.ctypeXdigit session.paymentId) = true
  · rw [if_pos hid]
    exact hmeanwhile
  rw [if_neg hid]
  by_cases hsame : (!(s.changes env.meanwhile).order.unchanged
      (decide (s.order.status = .failed)) s.order.pricedNow) = true
  · rw [if_pos hsame]
    exact hmeanwhile
  rw [if_neg hsame]
  obtain ⟨hst, hp⟩ := unchanged_spec (by simpa using hsame)
  have hfirst : (s.changes env.meanwhile).view.issue = none := by
    rw [(changes_same s env.meanwhile).1]
    simp [Store.view, Order.view, ha]
  refine hmeanwhile.tail (.issued ?_)
  cases env.moves with
  | true =>
    refine ⟨hfirst, ⟨⟨address.1, amountZat, s.order.pricedNow⟩, ?_, hp.symm⟩, ?_, ?_, rfl, ?_⟩
    · show ((Order.setStatus _ .pending).address.map _) = _
      rw [setStatus_eq]
      rfl
    · show (Order.setStatus _ .pending).stateVersion = 0
      rw [setStatus_eq]
    · show ((Order.setStatus _ .pending).view _).mark = _
      rw [mark_setStatus, if_neg fun h => hst h.1]
      rfl
    · exact .inr (status_setStatus _ _)
  | false =>
    exact ⟨hfirst, ⟨⟨address.1, amountZat, s.order.pricedNow⟩, rfl, hp.symm⟩, rfl, rfl, rfl,
      .inl rfl⟩

lemma act_steps (hs : Sound statuses true s.view) (a : Act) :
    Steps statuses true s.view (s.act a).view := by
  cases a with
  | deliver o env =>
    show Steps statuses true s.view (deliver env o s).view
    rcases deliver_cases env o hs with h | ⟨haddr, s₁, h₁, h⟩
    · rw [h]
      exact .refl
    · have hmeanwhile : Steps statuses true s.view s₁.view := by
        rcases h₁ with rfl | ⟨rfl, -⟩
        · exact .refl
        · exact changes_steps s env.meanwhile
      have hissue : s₁.view.issue = s.view.issue := by
        rcases h₁ with rfl | ⟨rfl, -⟩
        · rfl
        · exact (changes_same s env.meanwhile).1
      refine hmeanwhile.tail (.delivered _ ?_ h)
      rw [hissue]
      intro hn
      simp only [Store.view, Order.view, Option.map_eq_none_iff] at hn
      simp [hn] at haddr
  | checkout env => exact checkout_steps env s
  | change c => exact .single (.others (change_others s c))

lemma run_steps (hs : Sound statuses true s.view) (acts : List Act) :
    Steps statuses true s.view (s.run acts).view := by
  induction acts generalizing s with
  | nil => exact .refl
  | cons a acts ih =>
    have := act_steps hs a
    exact this.trans (ih (hs.steps this))

lemma sound_placed (status : Status) (paymentMethod total currency : String) :
    Sound statuses true (placed status paymentMethod total currency).view where
  unissued _ := ⟨rfl, rfl, rfl⟩
  proper i hi := by simp [placed, Store.view, Order.view] at hi
  own _ h := absurd rfl h
  remembered p h := by simp [placed, Store.view, Order.view] at h

/-- When the plugin may complete an order: the event and the service's answer cover a positive
amount due, and the order as it was read again is one of the plugin's own, not under review, at
the price the address was issued for, and pending or on the plugin's own hold. -/
structure Completion.Proper (order : Order) (c : Completion) : Prop where
  pos : 0 < order.amountZat
  event : order.amountZat ≤ c.event
  live : order.amountZat ≤ c.live
  ours : c.before.paymentMethod = id
  reviewed : c.before.needsReview = false
  price : c.before.pricedNow = order.priced
  status : c.before.status = .pending ∨ c.before.status = .onHold ∧ c.before.autoHold = true
  paid : c.after = .processing ∨ c.after = .completed

lemma proper_of (hs : Sound statuses true s.view) {c : Completion} (hc : c ∈ s.completions) :
    c.Proper s.order := by
  have hi : s.order.address ≠ none := by
    intro hn
    have := (hs.unissued (by simp [Store.view, Order.view, hn])).2.2
    simp only [Store.view, Order.view, List.map_eq_nil_iff] at this
    simp [this] at hc
  obtain ⟨i, hissue, hdue, hprice⟩ := issue_of_address hi
  have := hs.proper i hissue c.taking (List.mem_map_of_mem hc)
  exact
    { pos := hdue ▸ this.pos
      event := hdue ▸ this.event
      live := hdue ▸ this.live
      ours := by simpa [Completion.taking] using this.ours
      reviewed := this.review
      price := this.price.trans hprice
      status := this.before
      paid := this.after }

/-- Where nothing is done but by the plugin itself. -/
lemma deliver_delivered (hs : Sound statuses true s.view) (env : Env) (o : Php.Observation)
    (h : reviewNote s.order o.settledZat ≠ none ∨ s.order.isClosed = true ∨ env.meanwhile = []) :
    deliver env o s = s ∨ s.view.issue ≠ none ∧
      Delivered statuses true (event o) s.view (deliver env o s).view := by
  rcases deliver_cases env o hs with heq | ⟨haddr, s₁, h₁, hd⟩
  · exact .inl heq
  · have hi : s.view.issue ≠ none := by
      intro hn
      simp only [Store.view, Order.view, Option.map_eq_none_iff] at hn
      simp [hn] at haddr
    rcases h₁ with rfl | ⟨rfl, hnote, hclosed⟩
    · exact .inr ⟨hi, hd⟩
    · rcases h with h | h | h
      · exact absurd hnote h
      · simp [hclosed] at h
      · rw [h] at hd
        exact .inr ⟨hi, hd⟩

lemma reviewNote_of_foreign (hs : s.order.status = .onHold) (ha : s.order.autoHold = false)
    (zat : ℕ) : reviewNote s.order zat ≠ none := by
  unfold reviewNote
  dsimp only
  rw [if_pos ⟨hs, by simp [ha]⟩]
  simp

lemma reviewNote_of_review (h : s.order.needsReview = true) (zat : ℕ) :
    reviewNote s.order zat ≠ none := by
  unfold reviewNote
  dsimp only
  rw [h]
  split_ifs <;> simp_all

lemma deliver_stale (h : o.stateVersion ≤ s.order.stateVersion) : deliver env o s = s := by
  unfold deliver apply
  dsimp only
  split_ifs <;> rfl

/-! ### The completions -/

lemma completions_changes (s : Store) (cs : List Change) :
    (s.changes cs).completions = s.completions := by
  induction cs generalizing s with
  | nil => rfl
  | cons c cs ih => exact ih (s.change c)

lemma completions_autoHold (env : Env) (order : Order) (message : String) (s : Store) :
    (autoHold env order message s).2.completions = s.completions := by
  unfold autoHold
  dsimp only
  split_ifs <;> rfl

lemma completions_complete (env : Env) (o : Php.Observation) (live : ℕ) (s : Store) :
    s.completions <+: (complete env o live s).2.completions := by
  unfold complete
  dsimp only
  split_ifs
  · exact List.prefix_rfl
  all_goals split <;> first | exact List.prefix_append _ _ | exact List.prefix_rfl

lemma completions_deliver (env : Env) (o : Php.Observation) (s : Store) :
    s.completions <+: (deliver env o s).completions := by
  have hhold : ∀ (order : Order) (message : String) (s' : Store),
      s'.completions = s.completions → s.completions <+:
        (match autoHold env order message s' with
          | (none, t) => (couldNotHold, t)
          | (some held, t) => (Response.ok, t.record o held)).2.completions := by
    intro order message s' hs'
    have h := completions_autoHold env order message s'
    rcases hh : autoHold env order message s' with ⟨_ | held, t⟩
    all_goals
      rw [hh] at h
      show s.completions <+: t.completions
      rw [show t.completions = s'.completions from h, hs']
  unfold deliver apply
  dsimp only
  split
  · exact List.prefix_rfl
  split
  · exact List.prefix_rfl
  split
  · split
    · exact hhold _ _ _ rfl
    · exact List.prefix_rfl
  split
  · split
    · exact hhold _ _ _ rfl
    · exact List.prefix_rfl
  split
  · exact List.prefix_rfl
  have h := completions_changes s env.meanwhile
  split
  · split
    · exact (congrArg _ h).mpr List.prefix_rfl
    · split
      · exact (congrArg _ h).mpr List.prefix_rfl
      · exact h ▸ completions_complete env o _ _
  · split
    · exact List.prefix_rfl
    · split <;> exact List.prefix_rfl

lemma completions_eq {s' : Store} (h : s'.view.takings = s.view.takings)
    (hp : s.completions <+: s'.completions) : s'.completions = s.completions := by
  have hl := congrArg List.length h
  simp only [Store.view, Order.view, List.length_map] at hl
  exact (hp.eq_of_length hl.symm).symm

/-- **The order is safe**, whatever the service reports and whatever else happens to it: whenever
the plugin completes or releases it, the event and the service's answer cover what is due, and
when it was read again just before it was the plugin's own, unchanged and not under review; later
steps keep its address, amount and price and never lower the version; stale events change nothing;
no event lifts a hold of the merchant's, revives a closed order, or clears a review; after an event
is recorded a paid order is not short of it; and only an order on hold is marked as held. -/
theorem order_safe (status : Status) (paymentMethod total currency : String) (acts : List Act) :
    let s := (placed status paymentMethod total currency).run acts
    (∀ c ∈ s.completions, c.Proper s.order) ∧
    (∀ more, s.order.stateVersion ≤ (s.run more).order.stateVersion ∧
      ∀ a, s.order.address = some a → (s.run more).order.address = some a ∧
        (s.run more).order.amountZat = s.order.amountZat ∧
        (s.run more).order.priced = s.order.priced) ∧
    (∀ o env, o.stateVersion ≤ s.order.stateVersion → deliver env o s = s) ∧
    (∀ o env, s.order.status = .onHold → s.order.autoHold = false →
      (deliver env o s).order.status = .onHold ∧ (deliver env o s).completions = s.completions) ∧
    (∀ o env, s.order.isClosed = true → (deliver env o s).order.status = s.order.status ∧
      (deliver env o s).completions = s.completions) ∧
    (∀ o env, s.order.needsReview = true → (deliver env o s).order.needsReview = true ∧
      (deliver env o s).completions = s.completions) ∧
    (∀ o env, (deliver env o s).order.stateVersion ≠ s.order.stateVersion →
      (deliver env o s).order.isPaid = true → (deliver env o s).order.paymentMethod = id →
      (deliver env o s).order.amountZat ≤ o.settledZat) ∧
    (s.order.autoHold = true → s.order.status = .onHold) := by
  intro s
  have hplaced := sound_placed status paymentMethod total currency
  have hs : Sound statuses true s.view := hplaced.steps (run_steps hplaced acts)
  refine ⟨fun c hc => proper_of hs hc, ?_, ?_, ?_, ?_, ?_, ?_, ?_⟩
  · intro more
    have hlater := Lifecycle.Later.steps hs (run_steps hs more)
    refine ⟨hlater.version, fun a ha => ?_⟩
    have := hlater.issue ⟨a.1, s.order.amountZat, s.order.priced⟩
      (by simp [Store.view, Order.view, ha])
    simp only [Store.view, Order.view, Option.map_eq_some_iff, Lifecycle.Issue.mk.injEq] at this
    obtain ⟨a', ha', h1, h2, h3⟩ := this
    exact ⟨ha'.trans (congrArg some (Subtype.ext h1)), h2, h3⟩
  · exact fun o env hv => deliver_stale hv
  · intro o env hst ha
    rcases deliver_delivered hs env o (.inl (reviewNote_of_foreign hst ha _)) with h | ⟨hi, h⟩
    · rw [h]
      exact ⟨hst, rfl⟩
    · have hm : s.view.mark = none := by simp [Store.view, Order.view, ha]
      obtain ⟨hstatus, ht⟩ := h.foreign_hold hi hst hm
      exact ⟨hstatus, completions_eq ht (completions_deliver env o s)⟩
  · intro o env hc
    rcases deliver_delivered hs env o (.inr (.inl hc)) with h | ⟨hi, h⟩
    · rw [h]
      exact ⟨rfl, rfl⟩
    · obtain ⟨hstatus, ht⟩ := h.closed hi (closed_iff.mpr hc)
      exact ⟨hstatus, completions_eq ht (completions_deliver env o s)⟩
  · intro o env hr
    rcases deliver_delivered hs env o (.inl (reviewNote_of_review hr _)) with h | ⟨hi, h⟩
    · rw [h]
      exact ⟨hr, rfl⟩
    · obtain ⟨hreview, ht⟩ := h.review hi hr
      exact ⟨hreview, completions_eq ht (completions_deliver env o s)⟩
  · intro o env hv hp ho
    rcases deliver_cases env o hs with h | ⟨haddr, s₁, h₁, hd⟩
    · exact absurd (by rw [h]) hv
    · have hsame : s₁.view.issue = s.view.issue ∧ s₁.view.version = s.view.version := by
        rcases h₁ with rfl | ⟨rfl, -⟩
        · exact ⟨rfl, rfl⟩
        · exact changes_same s env.meanwhile
      have hfunded := hd.funded (fun h => hv (h.trans hsame.2)) (paid_iff.mpr hp)
        (by simpa [Store.view, Order.view] using ho)
      obtain ⟨i, hissue, -⟩ := issue_of_address (s := s) (by
        rintro hn
        simp [hn] at haddr)
      have hi : (deliver env o s).order.address ≠ none := by
        intro hn
        have := hd.later.issue i (hsame.1.trans hissue)
        simp [Store.view, Order.view, hn] at this
      by_contra hlt
      exact hfunded ((short_iff hi).mpr ⟨by omega, by omega⟩)
  · intro ha
    exact hs.own rfl ((mark_ne_none _).mpr ha)

/-! ### Runs of deliveries -/

/-- Deliveries alone: nobody else changes the order while the service is asked. -/
def Store.deliveries (s : Store) (ds : List (Php.Observation × Env)) : Store :=
  ds.foldl (fun s d => deliver { d.2 with meanwhile := [] } d.1 s) s

lemma deliveries_events (hs : Sound statuses true s.view) (ds : List (Php.Observation × Env)) :
    Lifecycle.Events statuses true s.view (s.deliveries ds).view := by
  induction ds generalizing s with
  | nil => exact .refl
  | cons d ds ih =>
    obtain ⟨o, env⟩ := d
    set t := deliver { env with meanwhile := [] } o s with ht
    have hstep : t = s ∨ s.view.issue ≠ none ∧ Delivered statuses true (event o) s.view t.view :=
      deliver_delivered hs _ o (.inr (.inr rfl))
    show Lifecycle.Events statuses true s.view (t.deliveries ds).view
    rcases hstep with h | ⟨hi, h⟩
    · rw [h]
      exact ih hs
    · exact .head ⟨_, h⟩ (ih (hs.delivered h hi))

/-- **One payment, completed once**: a pending order of the plugin's that only events reach, in
whatever order and however often they come and whatever the service answers or the shop fails to
do, stays pending until it is completed, and is completed once; from then on it is in the status it
got, with what is due on record, or on the plugin's own hold, which remembers that status, and a
hold was released to no other status. -/
theorem order_alone (status : Status) (paymentMethod total currency : String) (acts : List Act)
    (ds : List (Php.Observation × Env)) :
    let s := (placed status paymentMethod total currency).run acts
    let t := s.deliveries ds
    s.order.address ≠ none → s.order.paymentMethod = id → s.order.status = .pending →
    s.completions = [] →
    t.order.status = .pending ∧ t.completions = [] ∨
    ∃ c rest, t.completions = c :: rest ∧ c.before.status = .pending ∧
      (∀ x ∈ rest, x.before.status = .onHold ∧ x.after = c.after) ∧
      (t.order.status = c.after ∧ t.order.autoHold = false ∧
          s.order.amountZat ≤ t.order.receivedZat ∨
        t.order.status = .onHold ∧ t.order.autoHold = true ∧ t.order.preHold = some c.after) := by
  intro s t hi ho hst hc
  have hplaced := sound_placed status paymentMethod total currency
  have hs : Sound statuses true s.view := hplaced.steps (run_steps hplaced acts)
  obtain ⟨i, hissue, hdue, -⟩ := issue_of_address hi
  have hmark : s.view.mark = none := by
    by_contra hm
    have : s.order.status = .onHold := hs.own rfl hm
    simp [hst] at this
  have hstart : Lifecycle.Alone statuses i s.view :=
    .waiting hst hmark (by simp [Store.view, Order.view, hc])
  have hevents := deliveries_events hs ds
  have hours : s.view.ours = true := by simpa [Store.view, Order.view] using ho
  obtain ⟨halone, -⟩ := hstart.events hissue hours hs hevents
  have hcons : ∀ (x : Lifecycle.Taking Status) rest, t.view.takings = x :: rest →
      ∃ c cs, t.completions = c :: cs ∧ c.taking = x ∧ cs.map Completion.taking = rest := by
    intro x rest h
    exact List.map_eq_cons_iff.mp h
  cases halone with
  | waiting hstatus _ htakings =>
    refine .inl ⟨hstatus, ?_⟩
    simpa [Store.view, Order.view] using htakings
  | funded x rest htakings first again hstatus hmark hreceived =>
    obtain ⟨c, cs, hcs, rfl, rfl⟩ := hcons x rest htakings
    refine .inr ⟨c, cs, hcs, first, fun y hy => again _ (List.mem_map_of_mem hy), .inl
      ⟨hstatus, ?_, hdue ▸ hreceived⟩⟩
    by_contra ha
    exact (mark_ne_none _).mpr (by simpa using ha) hmark
  | held x rest htakings first again hstatus hmark =>
    obtain ⟨c, cs, hcs, rfl, rfl⟩ := hcons x rest htakings
    have hne : t.view.mark ≠ none := by simp [t, hmark]
    have ha : t.order.autoHold = true := (mark_ne_none t.completions).mp hne
    refine .inr ⟨c, cs, hcs, first, fun y hy => again _ (List.mem_map_of_mem hy), .inr
      ⟨hstatus, ha, ?_⟩⟩
    have hpre : t.order.autoHold = true ∧ t.order.preHold = some c.after := by
      simpa [Store.view, Order.view, Completion.taking, t] using hmark
    exact hpre.2

theorem order_alone_dropped_and_back :
    let env : CheckoutEnv := { amountZat := some 5, session := some ⟨"u1", "zcash:u1", "a0", "/p"⟩ }
    let live : Php.ServiceStatus := ⟨"paid", "0.00000005", none, ""⟩
    let s := (placed .pending "zcash_payment" "0.00000005" "ZEC").run [.checkout env]
    let t := s.deliveries
      [(⟨"e:v1", "u1", "0.00000005", 5, 5, 1⟩, { live := some live }),
        (⟨"e:v2", "u1", "0.00000000", 0, 0, 2⟩, {}),
        (⟨"e:v3", "u1", "0.00000005", 5, 5, 3⟩, { live := some live })]
    t.order.status = .pending ∧ t.completions = [] ∨
    ∃ c rest, t.completions = c :: rest ∧ c.before.status = .pending ∧
      (∀ x ∈ rest, x.before.status = .onHold ∧ x.after = c.after) ∧
      (t.order.status = c.after ∧ t.order.autoHold = false ∧
          s.order.amountZat ≤ t.order.receivedZat ∨
        t.order.status = .onHold ∧ t.order.autoHold = true ∧ t.order.preHold = some c.after) :=
  order_alone .pending "zcash_payment" "0.00000005" "ZEC" [.checkout _] _ (by decide) (by decide)
    (by decide) (by decide)

/-! ### The page and the webhook -/

/-- An order for which the page asks for a payment. -/
structure Asks (order : Order) : Prop where
  unpaid : order.isPaid = false
  opened : order.isClosed = false
  issued : order.address ≠ none
  reviewed : order.needsReview = false
  own : order.status = .onHold → order.autoHold = true
  price : order.priced = order.pricedNow

lemma asks_of_page {live : Option Php.ServiceStatus} {base : String} {remaining : ℤ} {more : Bool}
    {address : Php.NonEmpty} {wallet link : Option String}
    (h : thankyouPage live base order = .ask remaining more address wallet link) :
    Asks order ∧ order.address = some address ∧ remaining ≤ order.amountZat ∧
      (0 < order.amountZat → 0 < remaining) := by
  unfold thankyouPage at h
  by_cases hc : (order.isPaid || order.isClosed) = true
  · rw [if_pos hc] at h
    simp at h
  rw [if_neg hc] at h
  rcases ha : order.address with _ | a
  · simp [ha] at h
  simp only [ha] at h
  by_cases hr : (order.needsReview || (decide (order.status = .onHold) && !order.autoHold) ||
      decide (order.priced ≠ order.pricedNow)) = true
  · rw [if_pos hr] at h
    simp at h
  rw [if_neg hr] at h
  simp only [Bool.or_eq_true, Bool.and_eq_true, decide_eq_true_eq, Bool.not_eq_true', not_or,
    Bool.not_eq_true, not_and, Bool.not_eq_false, not_not] at hc hr
  have hasks : Asks order := ⟨hc.1, hc.2, by simp [ha], hr.1.1, hr.1.2, hr.2⟩
  split at h
  · simp at h
  · next live _ =>
    by_cases hseen : ["paid", "received"].contains live.status = true
    · rw [if_pos hseen] at h
      simp at h
    rw [if_neg hseen] at h
    split at h
    · simp at h
    · next hrest =>
      obtain ⟨rfl, -, rfl, -⟩ := Page.ask.inj h
      refine ⟨hasks, rfl, by omega, fun hpos => ?_⟩
      by_contra hle
      exact hrest ⟨by omega, not_lt.mp hle⟩

lemma Asks.reviewNote (h : Asks order) (ho : order.paymentMethod = id) (zat : ℕ) :
    reviewNote order zat = none := by
  unfold WooCommerce.reviewNote
  dsimp only
  rw [if_neg fun hc => by simp [h.own hc.1] at hc, if_neg (by simp [h.reviewed]),
    if_neg (not_not.mpr ho), if_neg fun hc => hc.2 h.price]

lemma Asks.ready_iff (h : Asks order) (ho : order.paymentMethod = id) :
    order.ready = true ↔ order.status = .pending ∨ order.status = .onHold := by
  simp only [Order.ready, h.unpaid, ho, h.reviewed, h.price]
  constructor
  · intro hr
    by_contra hst
    simp [hst] at hr
  · rintro (hst | hst)
    · simp [hst]
    · simp [hst, h.own hst]

/-- Completing succeeds exactly where the order is ready and the shop carries the change out. -/
lemma complete_ok_iff (env : Env) (o : Php.Observation) (live : ℕ) (s : Store) :
    (complete env o live s).1 = .ok ↔ s.order.ready = true ∧ env.moves = true := by
  unfold complete
  cases s.order.ready with
  | false => simp
  | true =>
    simp only [Bool.not_true, Bool.false_eq_true, if_false, true_and]
    split <;> cases env.moves <;> simp

/-- Completing an order records the event and leaves the order paid. -/
lemma complete_paid (hs : Sound statuses true s.view) {o : Php.Observation} {live : ℕ}
    (h : (complete env o live s).1 = .ok) :
    (complete env o live s).2.order.isPaid = true ∧
      (complete env o live s).2.order.stateVersion = o.stateVersion := by
  obtain ⟨hr, hm⟩ := (complete_ok_iff env o live s).mp h
  have hspec := ready_spec hr
  unfold complete
  simp only [hr, hm, Bool.not_true, Bool.false_eq_true, if_false, if_true]
  split
  · next preHold hh hpre =>
    have hhold : s.order.status = .onHold := by simpa using hh
    have hpp := hspec.paid_preHold hs hhold hpre
    refine ⟨?_, rfl⟩
    show Order.isPaid (Order.setStatus _ preHold) = true
    exact paid_iff.mp (by rwa [status_setStatus])
  · refine ⟨?_, rfl⟩
    show Order.isPaid (Order.paymentComplete _ _) = true
    rw [hspec.paymentComplete]
    exact paid_iff.mp (by
      rw [status_setStatus]
      exact paid_completed _)

lemma review_complete (hs : Sound statuses true s.view) (hr : s.order.needsReview = false)
    (o : Php.Observation) (live : ℕ) : (complete env o live s).2.order.needsReview = false := by
  have hpaid : ∀ new, statuses.Paid new →
      (Order.setStatus { s.order with receivedZat := o.settledZat } new).needsReview = false := by
    intro new hnew
    have hc : new ∉ closedStatuses := fun h => statuses.closed_unpaid new h hnew
    rw [setStatus_eq]
    simp [hr, hc]
  unfold complete
  by_cases hready : s.order.ready = true
  swap
  · simp only [hready, Bool.not_false, if_true]
    exact hr
  have hspec := ready_spec hready
  simp only [hready, Bool.not_true, Bool.false_eq_true, if_false]
  split
  · next preHold hh hpre =>
    have hhold : s.order.status = .onHold := by simpa using hh
    have hpp := hspec.paid_preHold hs hhold hpre
    cases env.moves with
    | true => exact hpaid preHold hpp
    | false => exact hr
  · cases env.moves with
    | true =>
      show (Order.paymentComplete _ _).needsReview = false
      rw [hspec.paymentComplete]
      exact hpaid _ (paid_completed _)
    | false => exact hr

/-- **What the page asks for is what the webhook takes.** The order-received page asks for no more
than is due, and something when an amount is due. While it asks and nobody else interferes, no event
that covers the amount sets the order aside; it completes a pending order, or releases the plugin's
hold, exactly where the service confirms it and the shop carries out the change. In a status that
the shop or another plugin has added it completes nothing. -/
theorem asked_payment_is_taken (status : Status) (paymentMethod total currency : String)
    (acts : List Act) (live : Option Php.ServiceStatus) (base : String) (remaining : ℤ)
    (more : Bool) (address : Php.NonEmpty) (wallet link : Option String) :
    let s := (placed status paymentMethod total currency).run acts
    s.order.paymentMethod = id →
    thankyouPage live base s.order = .ask remaining more address wallet link →
    remaining ≤ s.order.amountZat ∧ (0 < s.order.amountZat → 0 < remaining) ∧
    ∀ (o : Php.Observation) (env : Env), o.address = address.1 →
      s.order.stateVersion < o.stateVersion → 0 < s.order.amountZat →
      s.order.amountZat ≤ o.settledZat → env.meanwhile = [] →
      (deliver env o s).order.needsReview = false ∧
      ((apply env o s).1 = .ok ↔
        (s.order.status = .pending ∨ s.order.status = .onHold) ∧ env.moves = true ∧
          ∃ n, Php.liveZat (serviceStatus env s.order) = some n ∧ s.order.amountZat ≤ n) ∧
      ((apply env o s).1 = .ok → (deliver env o s).order.isPaid = true ∧
        (deliver env o s).order.stateVersion = o.stateVersion) := by
  intro s ho hpage
  have hplaced := sound_placed status paymentMethod total currency
  have hs : Sound statuses true s.view := hplaced.steps (run_steps hplaced acts)
  clear_value s
  obtain ⟨hasks, haddress, hle, hpos⟩ := asks_of_page hpage
  refine ⟨hle, hpos, fun o env haddr hnew hdue hcovers hmean => ?_⟩
  -- Only the branch that asks the service is left.
  have happly : apply env o s =
      (Php.liveZat (serviceStatus env s.order)).elim
        (.error 503 "cannot confirm with the service, retry", s) fun live =>
          if live < s.order.amountZat then
            (.ignored "superseded", s.note (supersededNote o.settledZat live))
          else complete env o live s := by
    have haddr' : s.order.address.map (·.1) = some o.address := by simp [haddress, haddr]
    unfold apply
    dsimp only
    rw [if_neg (not_not.mpr haddr'), if_neg (not_le.mpr hnew), hasks.reviewNote ho, hmean]
    simp only [hasks.unpaid, hasks.opened, Bool.false_eq_true, if_false, hdue, hcovers, and_self,
      if_true]
    cases Php.liveZat (serviceStatus env s.order) <;> rfl
  unfold deliver
  rw [happly]
  rcases hlive : Php.liveZat (serviceStatus env s.order) with _ | live
  · refine ⟨hasks.reviewed, ?_, fun h => by cases h⟩
    simp
  rw [Option.elim_some]
  split_ifs with hless
  · refine ⟨hasks.reviewed, ?_, fun h => by cases h⟩
    simp [hless]
  · refine ⟨review_complete hs hasks.reviewed o _, ?_, complete_paid hs⟩
    rw [complete_ok_iff, hasks.ready_iff ho]
    simp [not_lt.mp hless]

/-- The page asks for the rest of a part payment. The event of the rest, which the service confirms,
pays the order. -/
theorem asked_payment_is_taken_after_a_part :
    let checkout : CheckoutEnv :=
      { amountZat := some 5, session := some ⟨"u1", "zcash:u1", "a0", "/p"⟩ }
    let s := (placed .pending "zcash_payment" "0.00000005" "ZEC").run [.checkout checkout]
    let env : Env := { live := some ⟨"paid", "0.00000005", none, ""⟩ }
    let o : Php.Observation := ⟨"e2", "u1", "0.00000005", 5, 5, 2⟩
    (3 : ℤ) ≤ s.order.amountZat ∧ (deliver env o s).order.needsReview = false ∧
      (apply env o s).1 = .ok ∧ (deliver env o s).order.isPaid = true ∧
      (deliver env o s).order.stateVersion = 2 := by
  intro checkout s env o
  obtain ⟨hle, -, htaken⟩ := asked_payment_is_taken .pending "zcash_payment" "0.00000005" "ZEC"
    [.checkout checkout]
    (some ⟨"partially_paid", "0.00000002", none, "zcash:u1?amount=0.00000003"⟩) "" 3 true
    ⟨"u1", by decide⟩ (some "zcash:u1?amount=0.00000003") none (by decide) (by decide +kernel)
  obtain ⟨hreview, hok, hpaid⟩ := htaken o env rfl (by decide +kernel) (by decide +kernel)
    (by decide +kernel) rfl
  have hlive : Php.liveZat (serviceStatus env s.order) = some 5 := by decide +kernel
  have hamount : s.order.amountZat ≤ 5 := by decide +kernel
  have htakes := hok.mpr ⟨Or.inl (by decide +kernel), rfl, 5, hlive, hamount⟩
  exact ⟨hle, hreview, htakes, hpaid htakes⟩

end ZcashPayment.WooCommerce

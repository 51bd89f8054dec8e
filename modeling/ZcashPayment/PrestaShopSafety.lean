import ZcashPayment.OrderLifecycle
import ZcashPayment.PrestaShop

/-!
The PrestaShop module takes no step that a plugin may not take, whichever of its reads and writes
fail.

Since the hooks may fail to write, the markers of a hold may outlive the hold; everything else that
makes an order safe holds all the same.
-/

namespace ZcashPayment.PrestaShop

open Lifecycle (Statuses Others Issued Delivered Steps Sound)

variable {st : States} {s : Store} {env : Env} {o : Php.Observation}

/-! ### What the rules see of an order -/

lemma States.isPaid_iff {state : ℕ} :
    st.isPaid state = true ↔ 0 < state ∧ st.hold ≠ state ∧ st.paid state = true := by
  unfold States.isPaid
  split_ifs with h
  · refine iff_of_false (by simp) ?_
    rintro ⟨h1, h2, -⟩
    rcases h with h | h
    · omega
    · exact h2 h
  · rw [not_or] at h
    exact ⟨fun hp => ⟨by omega, h.2, hp⟩, fun hp => hp.2.2⟩

lemma States.isOpen_iff {state : ℕ} : st.isOpen state = true ↔ state = st.awaiting := by
  have := st.awaiting_pos
  simp only [States.isOpen, decide_eq_true_eq]
  omega

lemma States.isClosed_iff {state : ℕ} :
    st.isClosed state = true ↔ state ∈ [st.canceled, st.refund, st.error] := by
  simp [States.isClosed]

def States.statuses (st : States) : Statuses ℕ where
  hold := st.hold
  Paid state := st.isPaid state = true
  Closed state := st.isClosed state = true
  Open state := st.isOpen state = true
  hold_unpaid h := (States.isPaid_iff.mp h).2.1 rfl
  hold_not_closed h := st.hold_closed (States.isClosed_iff.mp h)
  hold_not_open h := st.hold_awaiting (States.isOpen_iff.mp h)
  paid_not_open state hp ho := by
    rw [States.isOpen_iff.mp ho] at hp
    simpa [st.awaiting_paid] using (States.isPaid_iff.mp hp).2.2
  closed_not_open state hc ho := by
    rw [States.isOpen_iff.mp ho] at hc
    exact st.awaiting_closed (States.isClosed_iff.mp hc)
  closed_unpaid state hc hp := by
    simpa [st.closed_paid state (States.isClosed_iff.mp hc)] using (States.isPaid_iff.mp hp).2.2

lemma States.paid_payment (st : States) : st.isPaid st.payment = true :=
  States.isPaid_iff.mpr ⟨st.payment_pos, st.payment_hold.symm, st.payment_paid⟩

/-- The status a marker remembers. -/
def Row.mark (row : Row) : Option (Option ℕ) :=
  if row.autoHold then some (if 0 < row.preHoldState then some row.preHoldState else none) else none

def Completion.taking (c : Completion) : Lifecycle.Taking ℕ where
  event := c.event
  live := c.live
  ours := c.order.isOurs
  price := c.order.priced
  review := c.row.needsReview
  own := c.row.autoHold
  before := c.order.currentState
  after := c.after

def Store.view (s : Store) : Lifecycle.Order ℕ where
  status := s.order.currentState
  ours := s.order.isOurs
  price := s.order.priced
  issue := s.row.address.map fun a => ⟨a.1, s.row.amountZat, s.row.priced⟩
  version := s.row.stateVersion
  received := s.row.receivedZat
  review := s.row.needsReview
  mark := s.row.mark
  takings := s.completions.map Completion.taking

def event (o : Php.Observation) : Lifecycle.Event := ⟨o.stateVersion, o.settledZat⟩

@[simp] lemma view_note (s : Store) (text : String) : (s.note text).view = s.view := rfl

@[simp] lemma row_mark_isSome (row : Row) : row.mark.isSome = row.autoHold := by
  unfold Row.mark
  cases row.autoHold <;> simp

lemma mark_of_unmarked {row : Row} (h : row.autoHold = false) : row.mark = none := by
  simp [Row.mark, h]

lemma mark_of_marked {row : Row} (h : row.autoHold = true) :
    row.mark = some (if 0 < row.preHoldState then some row.preHoldState else none) := by
  simp [Row.mark, h]

/-! ### Others -/

/-- What the hook leaves alone, and what it makes of the markers. -/
lemma afterStatusChange_spec (st : States) (new : ℕ) (row : Row) :
    let row' := afterStatusChange st new row
    row'.address = row.address ∧ row'.amountZat = row.amountZat ∧ row'.priced = row.priced ∧
      row'.stateVersion = row.stateVersion ∧ row'.receivedZat = row.receivedZat ∧
      (row'.mark = none ∨ row'.mark = row.mark) ∧
      (st.isClosed new = false → row'.needsReview = row.needsReview) := by
  unfold afterStatusChange
  split_ifs
  · exact ⟨rfl, rfl, rfl, rfl, rfl, .inr rfl, fun _ => rfl⟩
  · refine ⟨rfl, rfl, rfl, rfl, rfl, ?_, fun h => by simp [h]⟩
    by_cases h : (row.autoHold && decide (st.hold ≠ new)) = true
    · exact .inl (mark_of_unmarked (if_pos h))
    · refine .inr ?_
      dsimp only
      rw [Row.mark, if_neg h, if_neg h]
      rfl

variable (st) in
lemma change_others (s : Store) (c : Change) :
    Others st.statuses false s.view (s.change st c).view := by
  have htrivial : ∀ t : Store, t.view.issue = s.view.issue → t.view.version = s.view.version →
      t.view.received = s.view.received → t.completions = s.completions →
      (t.view.mark = none ∨ t.view.mark = s.view.mark) → Others st.statuses false s.view t.view :=
    fun t h1 h2 h3 h4 h5 =>
      ⟨h1, h2, h3, congrArg (List.map Completion.taking) h4, h5, by simp, by simp⟩
  cases c with
  | setState new hook =>
    obtain ⟨h1, h2, h3, h4, h5, h6, -⟩ := afterStatusChange_spec st new s.row
    by_cases h : (hook && s.order.isOurs) = true
    · refine htrivial _ ?_ ?_ ?_ rfl ?_ <;>
        simp only [Store.change, Store.changeState, h, if_true, Store.view]
      · rw [h1, h2, h3]
      · exact h4
      · exact h5
      · exact h6
    · refine htrivial _ ?_ ?_ ?_ rfl (.inr ?_) <;>
        simp [Store.change, Store.changeState, h, Store.view]
  | slip written =>
    refine htrivial _ ?_ ?_ ?_ ?_ (.inr ?_) <;>
      (simp only [Store.change, Store.slip]; split_ifs <;> rfl)
  | setModule | reprice | clearReview => exact htrivial _ rfl rfl rfl rfl (.inr rfl)

/-- A change to a state that is not closed. -/
lemma view_changeState (t : Store) {new : ℕ} (hook : Bool) (hnew : st.isClosed new = false) :
    ∃ mark, (mark = none ∨ mark = t.view.mark) ∧
      (t.changeState st new hook).view = { t.view with status := new, mark } := by
  obtain ⟨h1, h2, h3, h4, h5, h6, h7⟩ := afterStatusChange_spec st new t.row
  by_cases h : (hook && t.order.isOurs) = true
  · refine ⟨(afterStatusChange st new t.row).mark, h6, ?_⟩
    simp only [Store.changeState, h, if_true, Store.view, h1, h2, h3, h4, h5, h7 hnew]
    rfl
  · refine ⟨t.view.mark, .inr rfl, ?_⟩
    simp only [Store.changeState, h, Store.view]
    rfl

variable (st) in
lemma changes_steps (s : Store) (cs : List Change) :
    Steps st.statuses false s.view (s.changes st cs).view := by
  induction cs generalizing s with
  | nil => exact .refl
  | cons c cs ih => exact .head (.others (change_others st s c)) (ih (s.change st c))

variable (st) in
/-- What the changes leave alone. -/
lemma changes_same (s : Store) (cs : List Change) :
    (s.changes st cs).view.issue = s.view.issue ∧
      (s.changes st cs).view.version = s.view.version := by
  induction cs generalizing s with
  | nil => exact ⟨rfl, rfl⟩
  | cons c cs ih =>
    have h := change_others st s c
    exact ⟨(ih (s.change st c)).1.trans h.issue, (ih (s.change st c)).2.trans h.version⟩

/-! ### Deliveries -/

lemma issue_of_address (hi : s.row.address ≠ none) :
    ∃ i, s.view.issue = some i ∧ i.due = s.row.amountZat ∧ i.price = s.row.priced := by
  obtain ⟨a, ha⟩ := Option.ne_none_iff_exists'.mp hi
  exact ⟨⟨a.1, s.row.amountZat, s.row.priced⟩, by simp [Store.view, ha], rfl, rfl⟩

lemma short_iff (hi : s.row.address ≠ none) :
    s.view.Short (event o) ↔ 0 < s.row.amountZat ∧ o.settledZat < s.row.amountZat := by
  obtain ⟨i, hi, hdue, -⟩ := issue_of_address hi
  rw [Lifecycle.short_iff i hi, hdue]
  show o.settledZat < s.row.amountZat ↔ _
  omega

lemma covers_of (hi : s.row.address ≠ none) {zat : ℕ}
    (h : 0 < s.row.amountZat ∧ s.row.amountZat ≤ zat) : s.view.Covers zat := by
  obtain ⟨i, hi, hdue, -⟩ := issue_of_address hi
  rw [Lifecycle.covers_iff i hi, hdue]
  exact h

/-- An attempt that leaves no more than a review flag behind. -/
lemma kept_of (hv : s.row.stateVersion < o.stateVersion) (t : Store)
    (h : ∃ review, (s.row.needsReview = true → review = true) ∧
      t.view = { s.view with review }) :
    Delivered st.statuses false (event o) s.view t.view := by
  obtain ⟨review, hr, heq⟩ := h
  rw [heq]
  exact .kept review s.view.received s.view.mark hv hr (.inl rfl) (.inl rfl)

/-- Recording the event on top of what is stored so far. -/
lemma record_view (env : Env) (o : Php.Observation) (t : Store) :
    (t.record env o).2.view = if env.fails .record = true then t.view
      else { t.view with version := o.stateVersion, received := o.settledZat } := by
  unfold Store.record
  split_ifs <;> rfl

lemma recorded_delivered (hv : s.row.stateVersion < o.stateVersion) (env : Env) {t : Store}
    {review : Bool} (hr : s.row.needsReview = true → review = true)
    (ht : t.view = { s.view with review })
    (hf : st.isPaid s.order.currentState = true → s.order.isOurs = true →
      ¬s.view.Short (event o)) :
    Delivered st.statuses false (event o) s.view (t.record env o).2.view := by
  rw [record_view, ht]
  split_ifs
  · exact .kept review s.view.received s.view.mark hv hr (.inl rfl) (.inl rfl)
  · exact .recorded review hv hr hf

lemma view_mark (t : Store) {n : ℕ} (h : 0 < n) :
    (t.set { t.row with autoHold := true, preHoldState := n }).view
      = { t.view with mark := some (some n) } := by
  simp [Store.view, Store.set, Row.mark, h]

lemma view_unmark (t : Store) :
    (t.set { t.row with autoHold := false, preHoldState := 0 }).view
      = { t.view with mark := none } := rfl

/-- The hook has nothing to do for a hold. -/
lemma view_changeState_hold (t : Store) (hook : Bool) :
    (t.changeState st st.hold hook).view = { t.view with status := st.hold } := by
  have hrow : afterStatusChange st st.hold t.row = t.row := by
    have : st.isClosed st.hold = false := by
      rw [Bool.eq_false_iff]
      exact st.statuses.hold_not_closed
    unfold afterStatusChange
    split_ifs
    · rfl
    · simp [this]
  simp only [Store.view, Store.changeState, hrow, ite_self]
  rfl

/-- Holding a paid order that is short of its funds: it is held, and the event recorded or not; or
the event is not recorded and the order keeps its state, with the markers as far as they were
written. -/
lemma held_delivered (hi : s.row.address ≠ none) (hv : s.row.stateVersion < o.stateVersion)
    (env : Env) (message : String) {t : Store} {review : Bool}
    (hr : s.row.needsReview = true → review = true) (ht : t.view = { s.view with review })
    (hp : st.isPaid s.order.currentState = true) (ho : s.order.isOurs = true)
    (hshort : 0 < s.row.amountZat ∧ o.settledZat < s.row.amountZat) :
    Delivered st.statuses false (event o) s.view (holdAndRecord st env o message t).2.view := by
  have hstatus : t.order.currentState = s.order.currentState :=
    congrArg Lifecycle.Order.status ht
  obtain ⟨hpos, hne, -⟩ := States.isPaid_iff.mp hp
  have hkept : ∀ mark : Option (Option ℕ),
      (mark = s.view.mark ∨ mark = none ∨ mark = some (some s.order.currentState)) →
      Delivered st.statuses false (event o) s.view { s.view with review, mark } := by
    rintro mark hm
    refine .kept review s.view.received mark hv hr (.inl rfl) ?_
    rcases hm with h | h | h
    · exact .inl h
    · exact .inr ⟨rfl, .inl h⟩
    · exact .inr ⟨rfl, .inr ⟨hp, h⟩⟩
  have hheld : ∀ u : Store, u.view = { s.view with
        status := st.hold, review, mark := some (some s.order.currentState) } →
      Delivered st.statuses false (event o) s.view (u.record env o).2.view := by
    intro u hu
    have hdone : ∀ done, Delivered st.statuses false (event o) s.view _ := fun done =>
      .held review done hv hr hp ho ((short_iff hi).mpr hshort)
    rw [record_view, hu]
    split_ifs
    · exact hdone false
    · exact hdone true
  unfold holdAndRecord autoHold
  have hnot : ¬st.hold = (t.note message).order.currentState := fun h => hne (h.trans hstatus)
  rw [if_neg hnot]
  by_cases hmark : env.fails .mark = true
  · rw [if_pos hmark]
    show Delivered _ _ _ _ t.view
    rw [ht]
    exact hkept s.view.mark (.inl rfl)
  rw [if_neg hmark]
  -- The order with the markers written.
  set u := (t.note message).set { (t.note message).row with
    autoHold := true, preHoldState := (t.note message).order.currentState } with hu
  have huview : u.view = { s.view with review, mark := some (some s.order.currentState) } := by
    have : (t.note message).order.currentState = s.order.currentState := hstatus
    rw [hu, this, view_mark _ hpos, view_note, ht]
  have hustate : u.order.currentState = s.order.currentState := hstatus
  unfold setState
  dsimp only
  rw [if_neg (by rw [hustate]; exact fun h => hne h.symm)]
  cases hsaved : env.move.saved with
  | true =>
    have := hheld (u.changeState st st.hold env.move.hook) (by rw [view_changeState_hold, huview])
    cases hthrows : env.move.throws with
    | true =>
      simpa [Store.changeState] using this
    | false => simpa using this
  | false =>
    simp only [Bool.false_eq_true, if_false]
    rw [if_neg (by rw [hustate]; exact hne)]
    by_cases hunmark : env.fails .unmark = true
    · rw [if_pos hunmark]
      show Delivered _ _ _ _ u.view
      rw [huview]
      exact hkept _ (.inr (.inr rfl))
    · rw [if_neg hunmark]
      show Delivered _ _ _ _ (u.set _).view
      rw [view_unmark, huview]
      exact hkept none (.inr (.inl rfl))

/-- What was checked when the order was read again. -/
structure Ready (st : States) (s : Store) : Prop where
  ours : s.order.isOurs = true
  reviewed : s.row.needsReview = false
  price : s.row.priced = s.order.priced
  status : st.isOpen s.order.currentState = true ∨
    s.order.currentState = st.hold ∧ s.row.autoHold = true

lemma ready_spec (h : s.ready st = true) : Ready st s := by
  simp only [Store.ready, Store.ownHold, Bool.and_eq_true, Bool.or_eq_true, decide_eq_true_eq,
    Bool.not_eq_true'] at h
  obtain ⟨⟨⟨h1, h2⟩, h3⟩, h4⟩ := h
  refine ⟨h1, h2, h3, h4.imp_right fun ⟨h, h'⟩ => ⟨h.symm, h'⟩⟩

/-- The state the order is to get. -/
def target (st : States) (s : Store) : ℕ :=
  if s.ownHold st && decide (0 < s.row.preHoldState) then s.row.preHoldState else st.payment

/-- The target is a paid state, and the remembered one where there is one. -/
lemma target_spec (hs : Sound st.statuses false s.view) : st.isPaid (target st s) = true ∧
    ∀ p, s.order.currentState = st.hold → s.view.mark = some (some p) → target st s = p := by
  unfold target
  by_cases h : (s.ownHold st && decide (0 < s.row.preHoldState)) = true
  · rw [if_pos h]
    simp only [Store.ownHold, Bool.and_eq_true, decide_eq_true_eq] at h
    have hmark : s.view.mark = some (some s.row.preHoldState) := by
      show s.row.mark = _
      rw [mark_of_marked h.1.2, if_pos h.2]
    refine ⟨hs.remembered _ hmark, fun p _ hp => ?_⟩
    rw [hmark] at hp
    simpa using hp
  · rw [if_neg h]
    refine ⟨st.paid_payment, fun p hst hp => absurd ?_ h⟩
    have ha : s.row.autoHold = true := by
      by_contra hn
      have := mark_of_unmarked (by simpa using hn)
      rw [show s.view.mark = s.row.mark from rfl, this] at hp
      simp at hp
    have hpos : 0 < s.row.preHoldState := by
      by_contra hn
      rw [show s.view.mark = s.row.mark from rfl, mark_of_marked ha, if_neg hn] at hp
      simp at hp
    simp [Store.ownHold, hst, ha, hpos]

/-- Completing an order that was read again: it gets a paid state, and the event is recorded or
not; or nothing but the recorded amount changes and the event comes again. -/
lemma complete_delivered (hs : Sound st.statuses false s.view) (hi : s.row.address ≠ none)
    (hv : s.row.stateVersion < o.stateVersion) {live : ℕ}
    (hdue : 0 < s.row.amountZat ∧ s.row.amountZat ≤ o.settledZat)
    (hlive : s.row.amountZat ≤ live) :
    Delivered st.statuses false (event o) s.view (complete st env o live s).2.view := by
  obtain ⟨i, hissue, hidue, hprice⟩ := issue_of_address hi
  unfold complete
  by_cases hagain : env.fails .again = true
  · rw [if_pos hagain]
    exact .ignored
  rw [if_neg hagain]
  by_cases hready : s.ready st = true
  swap
  · rw [if_pos (by simpa using hready)]
    exact .ignored
  rw [if_neg (by simp [hready])]
  by_cases hcredit : env.fails .credit = true
  · rw [if_pos hcredit]
    exact .ignored
  rw [if_neg hcredit]
  obtain ⟨ho, hr, hp, hstatus⟩ := ready_spec hready
  obtain ⟨hpaid, hback⟩ := target_spec hs
  have htarget : (if s.ownHold st && decide (0 < s.row.preHoldState) then s.row.preHoldState
      else st.payment) = target st s := rfl
  simp only [htarget]
  set completion : Completion := ⟨o.settledZat, live, s.order, s.row, target st s⟩ with hc
  -- The order was not paid yet.
  have hne : s.order.currentState ≠ target st s := by
    intro h
    rcases hstatus with hopen | ⟨hhold, -⟩
    · exact st.statuses.paid_not_open _ hpaid (h ▸ hopen)
    · exact st.statuses.hold_unpaid (show st.isPaid st.hold = true from hhold ▸ h ▸ hpaid)
  set t := s.set { s.row with receivedZat := o.settledZat } with ht
  have htview : t.view = { s.view with received := o.settledZat } := rfl
  have hkept : Delivered st.statuses false (event o) s.view t.view := by
    rw [htview]
    exact .kept s.row.needsReview o.settledZat s.view.mark hv (fun h => h)
      (.inr ⟨covers_of hi hdue, rfl⟩) (.inl rfl)
  have htaken : ∀ (done : Bool) (mark : Option (Option ℕ)), mark = none ∨ mark = s.view.mark →
      Delivered st.statuses false (event o) s.view
        { s.view with
          status := target st s, mark
          version := if done then o.stateVersion else s.view.version
          received := o.settledZat
          takings := s.view.takings ++ [completion.taking] } := by
    intro done mark hm
    refine .taken completion.taking done mark hv ?_ ?_ (covers_of hi hdue)
      (hm.imp_right fun h => ⟨rfl, h⟩)
    · exact ⟨rfl, rfl, rfl, rfl, (row_mark_isSome _).symm, rfl, fun p h hm => hback p h hm⟩
    · intro j hj
      obtain rfl := Option.some.inj (hissue.symm.trans hj)
      exact ⟨hidue ▸ hdue.1, hidue ▸ hdue.2, hidue ▸ hlive, ho, hp.symm.trans hprice.symm, hr,
        hstatus, hpaid⟩
  -- The order once PrestaShop has saved its state.
  set u : Store := { t.changeState st (target st s) env.move.hook with
    completions := s.completions ++ [completion] } with hu
  have hclosed : st.isClosed (target st s) = false := by
    rw [Bool.eq_false_iff]
    exact fun h => st.statuses.closed_unpaid _ h hpaid
  obtain ⟨mark, hm, hview⟩ := view_changeState t env.move.hook hclosed
  have huview : u.view = { s.view with
      status := target st s, mark, received := o.settledZat
      takings := s.view.takings ++ [completion.taking] } := by
    refine Lifecycle.Order.ext (congrArg (·.status) hview) (congrArg (·.ours) hview)
      (congrArg (·.price) hview) (congrArg (·.issue) hview) (congrArg (·.version) hview)
      (congrArg (·.received) hview) (congrArg (·.review) hview) (congrArg (·.mark) hview) ?_
    show (s.completions ++ [completion]).map Completion.taking = _
    rw [List.map_append]
    rfl
  have hrecorded : ∀ text,
      Delivered st.statuses false (event o) s.view ((u.note text).record env o).2.view := by
    intro text
    rw [record_view, view_note, huview]
    split_ifs
    · exact htaken false mark hm
    · exact htaken true mark hm
  have hunrecorded : Delivered st.statuses false (event o) s.view u.view := by
    rw [huview]
    exact htaken false mark hm
  unfold setState
  rw [if_neg (show ¬t.order.currentState = target st s from hne)]
  cases hsaved : env.move.saved with
  | true =>
    cases hthrows : env.move.throws with
    | true => simpa [Store.changeState, Store.set, hu, ht] using hunrecorded
    | false =>
      simp only [Bool.not_false, if_true]
      split_ifs
      · exact hunrecorded
      · exact hrecorded _
      · exact hrecorded _
  | false =>
    simp only [Bool.false_eq_true, if_false]
    rw [if_neg (show ¬t.order.currentState = target st s from hne)]
    exact hkept

/-- **One delivery**: what others did until the service answered, if it was asked, and then one
step that a plugin may take. -/
theorem deliver_cases (env : Env) (o : Php.Observation) (hs : Sound st.statuses false s.view) :
    deliver st env o s = s ∨ s.row.address.map (·.1) = some o.address ∧
      ∃ s₁, (s₁ = s ∨ s₁ = s.changes st env.meanwhile ∧
          reviewNote st s.order s.row o.settledZat = none ∧
          st.isClosed s.order.currentState = false) ∧
        Delivered st.statuses false (event o) s₁.view (deliver st env o s).view := by
  unfold deliver apply
  dsimp only
  by_cases hrow : env.fails .row = true
  · rw [if_pos hrow]
    exact .inl rfl
  rw [if_neg hrow]
  by_cases haddr : s.row.address.map (·.1) = some o.address
  swap
  · rw [if_pos haddr]
    exact .inl rfl
  rw [if_neg (not_not.mpr haddr)]
  by_cases hv : o.stateVersion ≤ s.row.stateVersion
  · rw [if_pos hv]
    exact .inl rfl
  rw [if_neg hv]
  rw [not_le] at hv
  have hi : s.row.address ≠ none := by
    rintro h
    simp [h] at haddr
  refine .inr ⟨haddr, ?_⟩
  have hshort := short_iff (o := o) hi
  rcases hnote : reviewNote st s.order s.row o.settledZat with _ | note
  · dsimp only
    by_cases hp : st.isPaid s.order.currentState = true
    · have ho : s.order.isOurs = true := by
        by_contra ho
        unfold reviewNote at hnote
        dsimp only at hnote
        split_ifs at hnote with h1 h2 h3 h4
        simp [ho] at h3
      refine ⟨s, .inl rfl, ?_⟩
      rw [if_pos hp]
      by_cases hsh : 0 < s.row.amountZat ∧ o.settledZat < s.row.amountZat
      · rw [if_pos (decide_eq_true hsh)]
        exact held_delivered hi hv env _ (fun h => h) rfl hp ho hsh
      · rw [if_neg (by simpa using hsh)]
        exact recorded_delivered hv env (fun h => h) rfl fun _ _ h => hsh (hshort.mp h)
    · rw [if_neg hp]
      by_cases hc : st.isClosed s.order.currentState = true
      · rw [if_pos hc]
        refine ⟨s, .inl rfl, ?_⟩
        split
        · exact kept_of hv _ ⟨s.row.needsReview, fun h => h, rfl⟩
        · exact recorded_delivered hv env (fun _ => rfl) rfl fun h => absurd h hp
      · rw [if_neg hc]
        by_cases hdue : 0 < s.row.amountZat ∧ s.row.amountZat ≤ o.settledZat
        · rw [if_pos hdue]
          refine ⟨s.changes st env.meanwhile, .inr ⟨rfl, rfl, by simpa using hc⟩, ?_⟩
          obtain ⟨hissue, hversion⟩ := changes_same st s env.meanwhile
          cases hlive : Php.liveZat (serviceStatus env s.row) with
          | none => exact .ignored
          | some live =>
            dsimp only
            split_ifs with hlt
            · exact .ignored
            · obtain ⟨i, hi', hd, -⟩ := issue_of_address hi
              have hi₁ : (s.changes st env.meanwhile).row.address ≠ none := by
                intro hn
                rw [hi'] at hissue
                simp [Store.view, hn] at hissue
              obtain ⟨j, hj, hd', -⟩ := issue_of_address hi₁
              obtain rfl : j = i := Option.some.inj (hj.symm.trans (hissue.trans hi'))
              have hamount := hd'.symm.trans hd
              refine complete_delivered (hs.steps (changes_steps st s _)) hi₁ ?_ ?_ ?_
              · exact hversion.trans_lt hv
              · rw [hamount]
                exact hdue
              · rw [hamount]
                exact not_lt.mp hlt
        · rw [if_neg hdue]
          refine ⟨s, .inl rfl, ?_⟩
          refine recorded_delivered hv env (fun h => h) ?_ fun h => absurd h hp
          split_ifs <;> rfl
  · dsimp only
    refine ⟨s, .inl rfl, ?_⟩
    split
    · exact kept_of hv _ ⟨s.row.needsReview, fun h => h, rfl⟩
    · split
      · next hcond =>
        have hcond' : st.isPaid s.order.currentState = true ∧
            (0 < s.row.amountZat ∧ o.settledZat < s.row.amountZat) ∧ s.order.isOurs = true := by
          simpa [Store.set, Store.note, and_assoc] using hcond
        exact held_delivered hi hv env _ (fun _ => rfl) rfl hcond'.1 hcond'.2.2 hcond'.2.1
      · next hcond =>
        refine recorded_delivered hv env (fun _ => rfl) rfl fun hp ho h => hcond ?_
        have hsh := hshort.mp h
        show (st.isPaid s.order.currentState && _ && s.order.isOurs) = true
        rw [hp, decide_eq_true hsh, ho]
        rfl

/-! ### Every run -/

/-- **One checkout**: what others did until the service answered, and then nothing or the issue of
an address; an order that got none may fail. -/
lemma checkout_steps (hs : Sound st.statuses false s.view) (env : CheckoutEnv) :
    Steps st.statuses false s.view (validation st env s).2.view := by
  have hstart : Steps st.statuses false s.view (startSession st env s).2.view := by
    unfold startSession
    dsimp only
    split
    · exact .refl
    split
    · exact .refl
    split
    · split
      · exact .refl
      · split <;> exact .refl
    · next ha =>
      have hmeanwhile := changes_steps st s env.meanwhile
      split
      · exact .refl
      split
      · exact .refl
      split
      · exact hmeanwhile
      split
      swap
      · exact hmeanwhile
      next address qrText _ _ =>
      split
      · exact hmeanwhile
      split
      · exact hmeanwhile
      · next hsame =>
        split
        · exact hmeanwhile
        · have hp : (s.changes st env.meanwhile).order.priced = s.order.priced := by
            simp only [Bool.or_eq_true, decide_eq_true_eq, not_or, not_not] at hsame
            exact hsame.2
          have hs₁ := hs.steps hmeanwhile
          have hfirst : (s.changes st env.meanwhile).view.issue = none := by
            rw [(changes_same st s env.meanwhile).1]
            simp [Store.view, ha]
          refine hmeanwhile.tail (.issued ?_)
          exact ⟨hfirst, ⟨⟨address.1, _, s.order.priced⟩, rfl, hp.symm⟩,
            (hs₁.unissued hfirst).1, rfl, rfl, .inl rfl⟩
  unfold validation
  split
  · next heq => exact heq ▸ hstart
  · next t heq =>
    have ht : Steps st.statuses false s.view t.view := by
      rw [heq] at hstart
      exact hstart
    split
    · unfold setState
      split
      · exact ht
      · split
        · exact ht.tail (.others (change_others st t (.setState st.error env.move.hook)))
        · exact ht
    · exact ht

lemma act_steps (hs : Sound st.statuses false s.view) (a : Act) :
    Steps st.statuses false s.view (s.act st a).view := by
  cases a with
  | deliver o env =>
    show Steps st.statuses false s.view (deliver st env o s).view
    rcases deliver_cases env o hs with h | ⟨haddr, s₁, h₁, h⟩
    · rw [h]
      exact .refl
    · have hmeanwhile : Steps st.statuses false s.view s₁.view := by
        rcases h₁ with rfl | ⟨rfl, -⟩
        · exact .refl
        · exact changes_steps st s env.meanwhile
      have hissue : s₁.view.issue = s.view.issue := by
        rcases h₁ with rfl | ⟨rfl, -⟩
        · rfl
        · exact (changes_same st s env.meanwhile).1
      refine hmeanwhile.tail (.delivered _ ?_ h)
      rw [hissue]
      intro hn
      simp only [Store.view, Option.map_eq_none_iff] at hn
      simp [hn] at haddr
  | checkout env => exact checkout_steps hs env
  | change c => exact .single (.others (change_others st s c))

lemma run_steps (hs : Sound st.statuses false s.view) (acts : List Act) :
    Steps st.statuses false s.view (s.run st acts).view := by
  induction acts generalizing s with
  | nil => exact .refl
  | cons a acts ih =>
    have := act_steps hs a
    exact this.trans (ih (hs.steps this))

lemma sound_placed (st : States) (currentState : ℕ) (module priced : String) :
    Sound st.statuses false (placed currentState module priced).view where
  unissued _ := ⟨rfl, rfl, rfl⟩
  proper i hi := by simp [placed, Store.view] at hi
  own h := by simp at h
  remembered p h := by simp [placed, Store.view, Row.mark] at h

/-- When the module may complete an order: the event and the service's answer cover a positive
amount due, and the order as it was read again is one of the module's own, not under review, at
the price the address was issued for, and awaiting payment or on a hold with the module's mark. -/
structure Completion.Proper (st : States) (row : Row) (c : Completion) : Prop where
  pos : 0 < row.amountZat
  event : row.amountZat ≤ c.event
  live : row.amountZat ≤ c.live
  ours : c.order.isOurs = true
  reviewed : c.row.needsReview = false
  price : c.order.priced = row.priced
  status : st.isOpen c.order.currentState = true ∨
    c.order.currentState = st.hold ∧ c.row.autoHold = true
  paid : st.isPaid c.after = true

lemma proper_of (hs : Sound st.statuses false s.view) {c : Completion} (hc : c ∈ s.completions) :
    c.Proper st s.row := by
  have hi : s.row.address ≠ none := by
    intro hn
    have := (hs.unissued (by simp [Store.view, hn])).2.2
    simp only [Store.view, List.map_eq_nil_iff] at this
    simp [this] at hc
  obtain ⟨i, hissue, hdue, hprice⟩ := issue_of_address hi
  have := hs.proper i hissue c.taking (List.mem_map_of_mem hc)
  exact
    { pos := hdue ▸ this.pos
      event := hdue ▸ this.event
      live := hdue ▸ this.live
      ours := this.ours
      reviewed := this.review
      price := this.price.trans hprice
      status := this.before
      paid := this.after }

/-- Where nothing is done but by the module itself. -/
lemma deliver_delivered (hs : Sound st.statuses false s.view) (env : Env) (o : Php.Observation)
    (h : reviewNote st s.order s.row o.settledZat ≠ none ∨
      st.isClosed s.order.currentState = true) :
    deliver st env o s = s ∨ s.view.issue ≠ none ∧
      Delivered st.statuses false (event o) s.view (deliver st env o s).view := by
  rcases deliver_cases env o hs with heq | ⟨haddr, s₁, h₁, hd⟩
  · exact .inl heq
  · have hi : s.view.issue ≠ none := by
      intro hn
      simp only [Store.view, Option.map_eq_none_iff] at hn
      simp [hn] at haddr
    rcases h₁ with rfl | ⟨rfl, hnote, hclosed⟩
    · exact .inr ⟨hi, hd⟩
    · rcases h with h | h
      · exact absurd hnote h
      · simp [hclosed] at h

lemma reviewNote_of_foreign (hs : s.order.currentState = st.hold) (ha : s.row.autoHold = false)
    (zat : ℕ) : reviewNote st s.order s.row zat ≠ none := by
  unfold reviewNote
  dsimp only
  rw [if_pos ⟨hs.symm, by simp [ha]⟩]
  simp

lemma reviewNote_of_review (h : s.row.needsReview = true) (zat : ℕ) :
    reviewNote st s.order s.row zat ≠ none := by
  unfold reviewNote
  dsimp only
  rw [h]
  split_ifs <;> simp_all

lemma deliver_stale (h : o.stateVersion ≤ s.row.stateVersion) : deliver st env o s = s := by
  unfold deliver apply
  dsimp only
  split_ifs <;> rfl

/-! ### The completions -/

variable (st) in
lemma completions_changes (s : Store) (cs : List Change) :
    (s.changes st cs).completions = s.completions := by
  have hchange : ∀ (s : Store) (c : Change), (s.change st c).completions = s.completions := by
    intro s c
    cases c with
    | slip written =>
      show (s.slip written).completions = _
      unfold Store.slip
      split_ifs <;> rfl
    | setState | setModule | reprice | clearReview => rfl
  induction cs generalizing s with
  | nil => rfl
  | cons c cs ih => exact (ih (s.change st c)).trans (hchange s c)

lemma completions_record (env : Env) (o : Php.Observation) (s : Store) :
    (s.record env o).2.completions = s.completions := by
  unfold Store.record
  split_ifs <;> rfl

variable (st) in
lemma completions_setState (move : Move) (new : ℕ) (s : Store) :
    (setState st move new s).2.completions = s.completions := by
  unfold setState
  split_ifs <;> rfl

variable (st) in
lemma completions_autoHold (env : Env) (message : String) (s : Store) :
    (autoHold st env message s).2.completions = s.completions := by
  unfold autoHold
  dsimp only
  split
  · rfl
  split
  · rfl
  have h := completions_setState st env.move st.hold ((s.note message).set
    { (s.note message).row with
      autoHold := true, preHoldState := (s.note message).order.currentState })
  split
  · next heq => exact (heq ▸ h :)
  · next heq =>
    rw [heq] at h
    split_ifs <;> exact h

lemma completions_holdAndRecord (env : Env) (o : Php.Observation) (message : String) (s : Store) :
    (holdAndRecord st env o message s).2.completions = s.completions := by
  have h := completions_autoHold st env message s
  unfold holdAndRecord
  split
  · next heq => exact (heq ▸ h :)
  · next heq =>
    rw [heq] at h
    exact (completions_record env o _).trans h

lemma completions_complete (env : Env) (o : Php.Observation) (live : ℕ) (s : Store) :
    s.completions <+: (complete st env o live s).2.completions := by
  unfold complete
  split
  · exact List.prefix_rfl
  split
  · exact List.prefix_rfl
  split
  · exact List.prefix_rfl
  dsimp only
  generalize (if s.ownHold st && decide (0 < s.row.preHoldState) then s.row.preHoldState
    else st.payment) = new
  split
  · next heq =>
    have h := congrArg (fun r => r.2.completions) heq
    replace h := h.symm.trans (completions_setState st env.move _ _)
    split_ifs
    · exact ⟨[_], congrArg (· ++ _) h.symm⟩
    · exact ⟨[], (List.append_nil _).trans h.symm⟩
  · next heq =>
    have h := congrArg (fun r => r.2.completions) heq
    replace h := h.symm.trans (completions_setState st env.move _ _)
    split_ifs
    · exact ⟨[_], congrArg (· ++ _) h.symm⟩
    all_goals
      rw [completions_record]
      exact ⟨[_], congrArg (· ++ _) h.symm⟩

lemma completions_deliver (env : Env) (o : Php.Observation) (s : Store) :
    s.completions <+: (deliver st env o s).completions := by
  have hrecord : ∀ t : Store, t.completions = s.completions →
      s.completions <+: (t.record env o).2.completions := fun t ht =>
    (congrArg _ ((completions_record env o t).trans ht)).mpr List.prefix_rfl
  have hhold : ∀ (message : String) (t : Store), t.completions = s.completions →
      s.completions <+: (holdAndRecord st env o message t).2.completions := fun message t ht =>
    (congrArg _ ((completions_holdAndRecord env o message t).trans ht)).mpr List.prefix_rfl
  have h := completions_changes st s env.meanwhile
  unfold deliver apply
  dsimp only
  split
  · exact List.prefix_rfl
  split
  · exact List.prefix_rfl
  split
  · exact List.prefix_rfl
  split
  · split
    · exact List.prefix_rfl
    · split
      · exact hhold _ _ rfl
      · exact hrecord _ rfl
  split
  · split
    · exact hhold _ _ rfl
    · exact hrecord _ rfl
  split
  · split
    · exact List.prefix_rfl
    · exact hrecord _ rfl
  split
  · split
    · exact (congrArg _ h).mpr List.prefix_rfl
    · split
      · exact (congrArg _ h).mpr List.prefix_rfl
      · exact h ▸ completions_complete env o _ _
  · refine hrecord _ ?_
    split_ifs <;> rfl

lemma completions_eq {s' : Store} (h : s'.view.takings = s.view.takings)
    (hp : s.completions <+: s'.completions) : s'.completions = s.completions := by
  have hl := congrArg List.length h
  simp only [Store.view, List.length_map] at hl
  exact (hp.eq_of_length hl.symm).symm

/-- **The order is safe**, whatever the service reports, whatever else happens to it and whichever
calls of the database fail on the way: whenever the module completes or releases it, the event and
the service's answer cover what is due, and when it was read again just before it was the module's
own, unchanged and not under review; later steps keep its address, amount and price and never lower
the version; stale events change nothing; no event lifts a hold without the module's mark, revives
a closed order, or clears a review; and after an event is recorded a paid order is not short of
it. -/
theorem order_history_safe (st : States) (currentState : ℕ) (module priced : String)
    (acts : List Act) :
    let s := (placed currentState module priced).run st acts
    (∀ c ∈ s.completions, c.Proper st s.row) ∧
    (∀ more, s.row.stateVersion ≤ (s.run st more).row.stateVersion ∧
      ∀ a, s.row.address = some a → (s.run st more).row.address = some a ∧
        (s.run st more).row.amountZat = s.row.amountZat ∧
        (s.run st more).row.priced = s.row.priced) ∧
    (∀ o env, o.stateVersion ≤ s.row.stateVersion → deliver st env o s = s) ∧
    (∀ o env, s.order.currentState = st.hold → s.row.autoHold = false →
      (deliver st env o s).order.currentState = st.hold ∧
        (deliver st env o s).completions = s.completions) ∧
    (∀ o env, st.isClosed s.order.currentState = true →
      (deliver st env o s).order.currentState = s.order.currentState ∧
        (deliver st env o s).completions = s.completions) ∧
    (∀ o env, s.row.needsReview = true → (deliver st env o s).row.needsReview = true ∧
      (deliver st env o s).completions = s.completions) ∧
    (∀ o env, (deliver st env o s).row.stateVersion ≠ s.row.stateVersion →
      st.isPaid (deliver st env o s).order.currentState = true →
      (deliver st env o s).order.isOurs = true →
      (deliver st env o s).row.amountZat ≤ o.settledZat) := by
  intro s
  have hplaced := sound_placed st currentState module priced
  have hs : Sound st.statuses false s.view := hplaced.steps (run_steps hplaced acts)
  refine ⟨fun c hc => proper_of hs hc, ?_, ?_, ?_, ?_, ?_, ?_⟩
  · intro more
    have hlater := Lifecycle.Later.steps hs (run_steps hs more)
    refine ⟨hlater.version, fun a ha => ?_⟩
    have := hlater.issue ⟨a.1, s.row.amountZat, s.row.priced⟩ (by simp [Store.view, ha])
    simp only [Store.view, Option.map_eq_some_iff, Lifecycle.Issue.mk.injEq] at this
    obtain ⟨a', ha', h1, h2, h3⟩ := this
    exact ⟨ha'.trans (congrArg some (Subtype.ext h1)), h2, h3⟩
  · exact fun o env hv => deliver_stale hv
  · intro o env hst ha
    rcases deliver_delivered hs env o (.inl (reviewNote_of_foreign hst ha _)) with h | ⟨hi, h⟩
    · rw [h]
      exact ⟨hst, rfl⟩
    · obtain ⟨hstatus, ht⟩ := h.foreign_hold hi hst (mark_of_unmarked ha)
      exact ⟨hstatus, completions_eq ht (completions_deliver env o s)⟩
  · intro o env hc
    rcases deliver_delivered hs env o (.inr hc) with h | ⟨hi, h⟩
    · rw [h]
      exact ⟨rfl, rfl⟩
    · obtain ⟨hstatus, ht⟩ := h.closed hi hc
      exact ⟨hstatus, completions_eq ht (completions_deliver env o s)⟩
  · intro o env hr
    rcases deliver_delivered hs env o (.inl (reviewNote_of_review hr _)) with h | ⟨hi, h⟩
    · rw [h]
      exact ⟨hr, rfl⟩
    · obtain ⟨hreview, ht⟩ := h.review hi hr
      exact ⟨hreview, completions_eq ht (completions_deliver env o s)⟩
  · intro o env hv hp ho
    rcases deliver_cases env o hs with h | ⟨haddr, s₁, h₁, hd⟩
    · exact absurd (by rw [h]) hv
    · have hsame : s₁.view.issue = s.view.issue ∧ s₁.view.version = s.view.version := by
        rcases h₁ with rfl | ⟨rfl, -⟩
        · exact ⟨rfl, rfl⟩
        · exact changes_same st s env.meanwhile
      have hfunded := hd.funded (fun h => hv (h.trans hsame.2)) hp ho
      obtain ⟨i, hissue, -⟩ := issue_of_address (s := s) (by
        rintro hn
        simp [hn] at haddr)
      have hi : (deliver st env o s).row.address ≠ none := by
        intro hn
        have := hd.later.issue i (hsame.1.trans hissue)
        simp [Store.view, hn] at this
      by_contra hlt
      exact hfunded ((short_iff hi).mpr ⟨by omega, by omega⟩)

end ZcashPayment.PrestaShop

import ZcashPayment.Vendure

/-!
The Vendure plugin's payment never settles twice, and its hold follows the recorded funds.

One lemma says what a delivery can do to the shop: nothing, record the event, or settle the
payment and record the event. Everything else is read off its three cases.
-/

namespace ZcashPayment.Vendure

variable {s s' : Shop} {o : Observation} {env : Env} {due : ℤ}

/-! ### What is recorded -/

lemma valid_flags {z : ZcashState} (h : z.Valid .vendure) (hold : Option Hold) (review : Bool) :
    { z with hold, needsReview := review }.Valid .vendure where
  version := h.version
  received := h.received
  message hm := absurd (h.message hm).1 (by simp)
  seen := h.seen

lemma next_valid (s : Shop) (o : Observation) : (s.next o).Valid .vendure where
  version := o.safe
  received := isZat_toString _
  message hm := absurd ((readState_valid .vendure s.payment.metadata.zcash).message hm).1 (by simp)
  seen z hz := by
    obtain rfl : toString o.totalZat = z := by simpa [Shop.next] using hz
    exact ⟨rfl, isZat_toString _⟩

@[simp] lemma next_review (d : Draft) (message : String) :
    (d.review message).next = { d.next with needsReview := true } := rfl

@[simp] lemma next_release (d : Draft) (message : String) :
    (d.release message).next = { d.next with hold := none } := rfl

@[simp] lemma next_note (d : Draft) (text : String) : (d.note text).next = d.next := rfl

lemma next_hold {d : Draft} {z : ZcashState} (h : d.next.hold = z.hold) (message : String) :
    (d.hold z message).next = { d.next with hold := some .auto } := by
  unfold Draft.hold
  split_ifs with hz
  · rw [← hz, ← h]
  · rfl

@[simp] lemma state_record {d : Draft} (h : d.next.Valid .vendure) : (s.record d).state = d.next :=
  readState_store h

@[simp] lemma dueZat_record (s : Shop) (d : Draft) : (s.record d).dueZat = s.dueZat := rfl

@[simp] lemma settlements_record (s : Shop) (d : Draft) :
    (s.record d).settlements = s.settlements := rfl

@[simp] lemma paymentState_record (s : Shop) (d : Draft) :
    (s.record d).payment.state = s.payment.state := rfl

/-- The state that `s` records for the event `o`. -/
structure Records (s : Shop) (o : Observation) (next : ZcashState) : Prop where
  newer : s.state.stateVersion < o.stateVersion
  version : next.stateVersion = o.stateVersion
  received : next.receivedZat = toString o.settledZat
  valid : next.Valid .vendure
  review : s.state.needsReview = true → next.needsReview = true
  paid : s.payment.state = .settled → next.needsReview = false →
    (next.hold = some .auto ↔ (o.settledZat : ℤ) < s.dueZat)
  unpaid : s.payment.state ≠ .settled → next.hold = s.state.hold

/-- A settlement of `s` by the event `o` that leaves `s'`. -/
structure Settles (s : Shop) (o : Observation) (s' : Shop) (next : ZcashState) : Prop where
  newer : s.state.stateVersion < o.stateVersion
  reviewed : s.state.needsReview = false
  closed : s.payment.state ∉ closedPaymentStates
  unpaid : s.payment.state ≠ .settled
  settled : s'.payment.state = .settled
  dueZat : s'.dueZat = s.dueZat
  pos : 0 < s.dueZat
  amounts : ∃ live confirmed : ℕ, s.dueZat ≤ o.settledZat ∧ s.dueZat ≤ live ∧
    s.dueZat ≤ confirmed ∧ s'.settlements = s.settlements ++ [⟨o.settledZat, live, confirmed⟩]
  next : ∃ review, next = { s.next o with needsReview := review }

lemma short_eq (s : Shop) (o : Observation) :
    (s.decideInput o).short = true ↔ (o.settledZat : ℤ) < s.dueZat := by
  unfold DecideInput.short
  rw [decide_eq_true_iff]
  show 0 < s.dueZat ∧ (o.settledZat : ℤ) < s.dueZat ↔ _
  omega

lemma records_of (hnew : s.state.stateVersion < o.stateVersion) (hold : Option Hold)
    (review : Bool) (hr : s.state.needsReview = true → review = true)
    (hp : s.payment.state = .settled → review = false →
      (hold = some .auto ↔ (o.settledZat : ℤ) < s.dueZat))
    (hu : s.payment.state ≠ .settled → hold = s.state.hold) :
    Records s o { s.next o with hold, needsReview := review } where
  newer := hnew
  version := rfl
  received := rfl
  valid := valid_flags (next_valid s o) hold review
  review := hr
  paid := hp
  unpaid := hu

/-- The handler lets a payment settle only when what is due is confirmed. -/
lemma settlePayment_ok {order : Order} {payment : Payment} {live : Option ServiceStatus}
    {confirmed : ℕ} (h : settlePayment order payment live = .ok confirmed) :
    payment.metadata.amountZat.getD 0 ≤ confirmed := by
  unfold settlePayment at h
  dsimp only at h
  split_ifs at h with h1 h2
  all_goals
    cases hl : liveTotal live with
    | none => simp [hl] at h
    | some received =>
      simp only [hl] at h
      split_ifs at h with hd
      obtain rfl := Except.ok.inj h
      omega

lemma orderServiceSettle_ok {event live : ℕ}
    (h : orderServiceSettle env event live s = .ok s') :
    ∃ confirmed : ℕ, s.dueZat ≤ confirmed ∧ s'.dueZat = s.dueZat ∧
      s'.settlements = s.settlements ++ [⟨event, live, confirmed⟩] := by
  unfold orderServiceSettle at h
  dsimp only at h
  split at h
  · next confirmed state hc _ =>
    obtain rfl := Except.ok.inj h
    exact ⟨confirmed, settlePayment_ok hc, rfl, rfl⟩
  · exact absurd h (by simp)

lemma paid_iff (s : Shop) (o : Observation) :
    (s.decideInput o).paid = true ↔ s.payment.state = .settled := by
  simp [Shop.decideInput]

lemma closed_false (h : (s.decideInput o).closed = false) :
    s.payment.state ∉ closedPaymentStates := by
  intro hc
  simp [Shop.decideInput, hc] at h

/-- **Inversion** of a delivery. -/
theorem deliver_cases (env : Env) (o : Observation) (s : Shop) :
    deliver env o s = s ∨
    (∃ d : Draft, deliver env o s = s.record d ∧ Records s o d.next) ∨
    ∃ s' d, deliver env o s = Shop.record s' d ∧ Settles s o s' d.next := by
  have key : ∀ b s', apply env o s = .ok (b, s') → s' = s ∨
      (∃ d : Draft, s' = s.record d ∧ Records s o d.next) ∨
      ∃ s₁ d, s' = Shop.record s₁ d ∧ Settles s o s₁ d.next := by
    intro b s' h
    have hcases := decideAs_cases "settled" (s.decideInput o)
    have hpaid := paid_iff s o
    have hshort := short_eq s o
    have hdecide : decide (s.decideInput o) = decideAs "settled" (s.decideInput o) := rfl
    unfold apply at h
    rw [hdecide] at h
    dsimp only at h
    split at h <;> rename_i hd <;> rw [hd] at hcases <;> dsimp only at hcases
    case h_1 =>
      obtain rfl := (Prod.mk.inj (Except.ok.inj h)).2
      exact .inl rfl
    case h_2 message short =>
      obtain rfl := (Prod.mk.inj (Except.ok.inj h)).2
      obtain ⟨hnew, hs, -⟩ := hcases
      refine .inr (.inl ⟨_, rfl, ?_⟩)
      cases short with
      | true =>
        rw [if_pos rfl, next_hold (by rfl)]
        exact records_of hnew (some .auto) true (fun _ => rfl) (by simp) fun hu => by
          simp [hu, hpaid] at hs
      | false => exact records_of hnew s.state.hold true (fun _ => rfl) (by simp) fun _ => rfl
    case h_3 message =>
      obtain rfl := (Prod.mk.inj (Except.ok.inj h)).2
      obtain ⟨happ, hp, hs⟩ := hcases
      refine .inr (.inl ⟨_, rfl, ?_⟩)
      rw [next_hold (by rfl)]
      exact records_of happ.newer (some .auto) s.state.needsReview id
        (fun _ _ => iff_of_true rfl (hshort.mp hs)) fun hu => absurd (hpaid.mp hp) hu
    case h_4 message =>
      obtain ⟨happ, hp, hs, hh⟩ := hcases
      split at h
      · exact absurd h (by simp)
      · split_ifs at h with hl
        · obtain rfl := (Prod.mk.inj (Except.ok.inj h)).2
          exact .inl rfl
        · obtain rfl := (Prod.mk.inj (Except.ok.inj h)).2
          refine .inr (.inl ⟨_, rfl, ?_⟩)
          exact records_of happ.newer none s.state.needsReview id
            (fun _ _ => iff_of_false (by simp) (by simp [← hshort, hs]))
            fun hu => absurd (hpaid.mp hp) hu
    case h_5 message =>
      obtain rfl := (Prod.mk.inj (Except.ok.inj h)).2
      obtain ⟨happ, hp, hs, hh⟩ := hcases
      refine .inr (.inl ⟨_, rfl, ?_⟩)
      exact records_of happ.newer s.state.hold s.state.needsReview id
        (fun _ _ => iff_of_false (by simp [show s.state.hold = none from hh])
          (by simp [← hshort, hs]))
        fun _ => rfl
    case h_6 message =>
      obtain rfl := (Prod.mk.inj (Except.ok.inj h)).2
      obtain ⟨happ, hp⟩ := hcases
      refine .inr (.inl ⟨_, rfl, ?_⟩)
      exact records_of happ.newer s.state.hold s.state.needsReview id
        (fun hst => absurd (hpaid.mpr hst) (by simp [hp])) fun _ => rfl
    case h_7 message =>
      obtain rfl := (Prod.mk.inj (Except.ok.inj h)).2
      obtain ⟨happ, hp⟩ := hcases
      refine .inr (.inl ⟨_, rfl, ?_⟩)
      have : (if s.state.seenZat ≠ some (toString o.totalZat) then
          Draft.note { next := s.next o } s!"Zcash: {message}"
          else { next := s.next o }).next = s.next o := by
        split_ifs <;> rfl
      rw [this]
      exact records_of happ.newer s.state.hold s.state.needsReview id
        (fun hst => absurd (hpaid.mpr hst) (by simp [hp])) fun _ => rfl
    case h_8 =>
      obtain ⟨happ, hp, -, hpos, hdue⟩ := hcases
      split at h
      · exact absurd h (by simp)
      · next live _ =>
        split_ifs at h with hl
        · obtain rfl := (Prod.mk.inj (Except.ok.inj h)).2
          exact .inl rfl
        · split at h
          · exact absurd h (by simp)
          · next s₁ hset =>
            split_ifs at h with hst hcancelled
            all_goals
              obtain rfl := (Prod.mk.inj (Except.ok.inj h)).2
              obtain ⟨confirmed, hc, hdz, hlog⟩ := orderServiceSettle_ok hset
              refine .inr (.inr ⟨s₁, _, rfl, ?_⟩)
              refine
                { newer := happ.newer
                  reviewed := happ.reviewed
                  closed := closed_false happ.closed
                  unpaid := fun hp' => by simp [hpaid.mpr hp'] at hp
                  settled := by simpa using hst
                  dueZat := hdz
                  pos := hpos
                  amounts := ⟨live, confirmed, hdue, not_lt.mp hl, hc, hlog⟩
                  next := ?_ }
            · exact ⟨true, rfl⟩
            · exact ⟨s.state.needsReview, rfl⟩
  unfold deliver
  split
  · next b s' h =>
    split_ifs
    · exact .inl rfl
    · exact key b s' h
  · exact .inl rfl

/-! ### Every run -/

/-- What holds of the shop after every act. -/
structure Sound (due : ℤ) (s : Shop) : Prop where
  dueZat : s.dueZat = due
  once : s.settlements.length ≤ 1
  amounts : ∀ x ∈ s.settlements, 0 < due ∧ due ≤ x.event ∧ due ≤ x.live ∧ due ≤ x.confirmed
  taken : s.settlements ≠ [] →
    s.payment.state = .settled ∨ s.payment.state ∈ closedPaymentStates
  untaken : s.settlements = [] → s.payment.state ≠ .settled ∧ s.state.hold = none
  hold : s.payment.state = .settled → s.state.needsReview = false →
    (s.state.hold = some .auto ↔ (s.state.received : ℤ) < due)

lemma received_eq {z : ZcashState} {n : ℕ} (h : z.receivedZat = toString n) : z.received = n := by
  rw [ZcashState.received, h, DecimalText.toList_toString, DecimalText.value_digits]

lemma sound_record {d : Draft} (hs : Sound due s) (hr : Records s o d.next) :
    Sound due (s.record d) where
  dueZat := hs.dueZat
  once := hs.once
  amounts := hs.amounts
  taken := hs.taken
  untaken h := by
    obtain ⟨hst, hh⟩ := hs.untaken h
    rw [state_record hr.valid, hr.unpaid hst]
    exact ⟨hst, hh⟩
  hold hst hn := by
    rw [state_record hr.valid] at hn ⊢
    rw [received_eq hr.received, hr.paid hst hn, hs.dueZat]

lemma Settles.state_record {d : Draft} (h : Settles s o s' d.next) :
    (s'.record d).state = d.next := by
  obtain ⟨review, hnext⟩ := h.next
  apply Vendure.state_record
  rw [hnext]
  exact valid_flags (next_valid s o) _ _

lemma sound_settle {d : Draft} (hs : Sound due s) (hr : Settles s o s' d.next) :
    Sound due (s'.record d) := by
  obtain ⟨live, confirmed, hevent, hlive, hconfirmed, hlog⟩ := hr.amounts
  obtain ⟨review, hnext⟩ := hr.next
  -- An open payment that is not settled was never settled before.
  have hnone : s.settlements = [] := by
    by_contra hne
    rcases hs.taken hne with h | h
    · exact hr.unpaid h
    · exact hr.closed h
  rw [hnone, List.nil_append] at hlog
  have hdue := hs.dueZat
  have hpos := hr.pos
  exact
    { dueZat := hr.dueZat.trans hdue
      once := by simp [hlog]
      amounts := by
        intro x hx
        rw [settlements_record, hlog, List.mem_singleton] at hx
        subst hx
        exact ⟨hdue ▸ hpos, hdue ▸ hevent, hdue ▸ hlive, hdue ▸ hconfirmed⟩
      taken := fun _ => .inl hr.settled
      untaken := fun h => by simp [hlog] at h
      hold := fun _ _ => by
        rw [hr.state_record, hnext]
        refine iff_of_false ?_ ?_
        · simp [Shop.next, (hs.untaken hnone).2]
        · rw [received_eq rfl]
          omega }

lemma sound_deliver (hs : Sound due s) (env : Env) (o : Observation) :
    Sound due (deliver env o s) := by
  rcases deliver_cases env o s with h | ⟨d, h, hr⟩ | ⟨s', d, h, hr⟩ <;> rw [h]
  · exact hs
  · exact sound_record hs hr
  · exact sound_settle hs hr

lemma sound_act (hs : Sound due s) (a : Act) : Sound due (s.act a) := by
  cases a with
  | deliver o env => exact sound_deliver hs env o
  | setOrderCancelled cancelled => exact ⟨hs.1, hs.2, hs.3, hs.4, hs.5, hs.6⟩
  | setRefunds refunds => exact ⟨hs.1, hs.2, hs.3, hs.4, hs.5, hs.6⟩
  | closePayment state =>
    have hne : state.1 ≠ .settled := fun h => absurd (h ▸ state.2) (by decide)
    exact
      { dueZat := hs.dueZat
        once := hs.once
        amounts := hs.amounts
        taken := fun _ => .inr state.2
        untaken := fun h => ⟨hne, (hs.untaken h).2⟩
        hold := fun h => absurd h hne }

lemma sound_run (hs : Sound due s) (acts : List Act) : Sound due (s.run acts) := by
  induction acts generalizing s with
  | nil => exact hs
  | cons a acts ih => exact ih (sound_act hs a)

lemma sound_issued (code address paymentId : String) :
    Sound due (issued code address paymentId due) where
  dueZat := rfl
  once := by simp [issued]
  amounts := by simp [issued]
  taken h := absurd rfl h
  untaken _ := ⟨by simp [issued], rfl⟩
  hold h := by simp [issued] at h

/-! ### What only grows -/

/-- `s'` is a later state of the same payment: its version is not lower, a review stays, and
under review nothing is settled. -/
structure Later (s s' : Shop) : Prop where
  version : s.state.stateVersion ≤ s'.state.stateVersion
  review : s.state.needsReview = true → s'.state.needsReview = true
  settlements : s.state.needsReview = true → s'.settlements = s.settlements

lemma Later.refl (s : Shop) : Later s s := ⟨le_rfl, id, fun _ => rfl⟩

lemma Later.trans {s₁ s₂ s₃ : Shop} (h : Later s₁ s₂) (h' : Later s₂ s₃) : Later s₁ s₃ :=
  ⟨h.1.trans h'.1, fun hr => h'.2 (h.2 hr), fun hr => (h'.3 (h.2 hr)).trans (h.3 hr)⟩

lemma later_act (s : Shop) (a : Act) : Later s (s.act a) := by
  cases a with
  | deliver o env =>
    show Later s (deliver env o s)
    rcases deliver_cases env o s with h | ⟨d, h, hr⟩ | ⟨s', d, h, hr⟩ <;> rw [h]
    · exact Later.refl s
    · refine ⟨?_, fun hn => ?_, fun _ => rfl⟩
      · rw [state_record hr.valid, hr.version]
        exact hr.newer.le
      · rw [state_record hr.valid]
        exact hr.review hn
    · refine ⟨?_, fun hn => ?_, fun hn => ?_⟩
      · obtain ⟨review, hnext⟩ := hr.next
        rw [hr.state_record, hnext]
        exact hr.newer.le
      all_goals simp [hr.reviewed] at hn
  | setOrderCancelled cancelled => exact ⟨le_rfl, id, fun _ => rfl⟩
  | setRefunds refunds => exact ⟨le_rfl, id, fun _ => rfl⟩
  | closePayment state => exact ⟨le_rfl, id, fun _ => rfl⟩

lemma later_run (s : Shop) (acts : List Act) : Later s (s.run acts) := by
  induction acts generalizing s with
  | nil => exact Later.refl s
  | cons a acts ih => exact (later_act s a).trans (ih (s.act a))

lemma deliver_stale (env : Env) (h : o.stateVersion ≤ s.state.stateVersion) :
    deliver env o s = s := by
  rcases deliver_cases env o s with hd | ⟨d, -, hr⟩ | ⟨s', d, -, hr⟩
  · exact hd
  · exact absurd hr.newer (by omega)
  · exact absurd hr.newer (by omega)

/-- **The payment is safe**: in every state a payment reaches, later events never lower the
recorded version and events that are not newer change nothing; it was settled at most once, and
then the event and both answers of the service covered a positive due amount; a payment under
review is never settled; and a settled payment outside review is on hold exactly while the
recorded amount is below what is due. -/
theorem payment_safe (code address paymentId : String) (due : ℤ) (acts : List Act) :
    let s := (issued code address paymentId due).run acts
    (∀ more, s.state.stateVersion ≤ (s.run more).state.stateVersion) ∧
    (∀ (o : Observation) (env : Env), o.stateVersion ≤ s.state.stateVersion →
      deliver env o s = s) ∧
    s.settlements.length ≤ 1 ∧
    (s.payment.state = .settled → s.settlements ≠ []) ∧
    (∀ x ∈ s.settlements, 0 < due ∧ due ≤ x.event ∧ due ≤ x.live ∧ due ≤ x.confirmed) ∧
    (s.state.needsReview = true → ∀ more, (s.run more).settlements = s.settlements) ∧
    (s.payment.state = .settled → s.state.needsReview = false →
      (s.state.hold = some .auto ↔ (s.state.received : ℤ) < due)) := by
  intro s
  have hs : Sound due s := sound_run (sound_issued code address paymentId) acts
  exact ⟨fun more => (later_run s more).version, fun o env => deliver_stale env, hs.once,
    fun hst hnil => (hs.untaken hnil).1 hst, hs.amounts,
    fun hr more => (later_run s more).settlements hr, hs.hold⟩

/-- The status call answers `apply` and the handler with one ZEC. -/
def testEnv : Env where
  live := some ⟨"1.00000000", none⟩
  handlerLive := some ⟨"1.00000000", none⟩

/-- One ZEC is reported, then nothing, then one ZEC again. -/
def dropAndReturn : List Act :=
  [.deliver (testEvent 1 100000000 (by decide)) testEnv,
    .deliver (testEvent 2 0 (by decide)) testEnv,
    .deliver (testEvent 3 100000000 (by decide)) testEnv]

/-- The payment settles once, is held while the funds are gone, and is released when they are
back; nothing that is delivered afterwards settles it again. -/
theorem payment_safe_through_a_drop :
    let s := issued "T_1" "u1" "ab12" 100000000
    (s.run (dropAndReturn.take 1)).payment.state = .settled ∧
      (s.run (dropAndReturn.take 2)).state.hold = some .auto ∧
      (s.run dropAndReturn).state.hold = none ∧
      (s.run dropAndReturn).settlements = [⟨100000000, 100000000, 100000000⟩] ∧
      ∀ more, ((s.run dropAndReturn).run more).settlements.length ≤ 1 := by
  intro s
  refine ⟨by decide +kernel, by decide +kernel, by decide +kernel, by decide +kernel,
    fun more => ?_⟩
  have hsafe := payment_safe "T_1" "u1" "ab12" 100000000 (dropAndReturn ++ more)
  have hrun : (issued "T_1" "u1" "ab12" 100000000).run (dropAndReturn ++ more) =
      (s.run dropAndReturn).run more := List.foldl_append
  rw [hrun] at hsafe
  exact hsafe.2.2.1

end ZcashPayment.Vendure

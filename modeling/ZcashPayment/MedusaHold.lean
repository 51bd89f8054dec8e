import ZcashPayment.Medusa

/-!
The Medusa plugin's hold and the funds.

The hold metadata of the order and the plugin's own record of it are written apart. When an
attempt fails between the two they disagree, and nothing brings them together again: a hold that
was placed but not recorded counts as the merchant's, and one that was lifted but not recorded
counts as placed. Without such a failure the two agree after every attempt, and both agree with
the funds once an event is recorded.
-/

namespace ZcashPayment.Medusa

open Prog

variable {s s₀ s₁ : Store} {a : Attempt} {o : Observation} {env : Env} {due : ℤ}
  {next : ZcashState}

/-! ### The effects -/

@[simp] lemma state_emit (s : Store) (e : HoldEvent) : (s.emit e).state = s.state := rfl

@[simp] lemma hold_emit (s : Store) (e : HoldEvent) : (s.emit e).hold = s.hold := rfl

@[simp] lemma captured_emit (s : Store) (e : HoldEvent) : (s.emit e).captured = s.captured := rfl

@[simp] lemma state_setHold (s : Store) (m : Option String) : (s.setHold m).state = s.state := rfl

@[simp] lemma captured_setHold (s : Store) (m : Option String) :
    (s.setHold m).captured = s.captured := rfl

lemma hold_setHold (h : s.order.isSome = true) (m : Option String) : (s.setHold m).hold = m := by
  obtain ⟨order, ho⟩ := Option.isSome_iff_exists.mp h
  simp [Store.hold, Store.setHold, ho]

@[simp] lemma closed_setHold (s : Store) (m : Option String) :
    (s.setHold m).closed = s.closed := by
  simp [Store.closed, Store.setHold, Option.any_map]

@[simp] lemma isSome_setHold (s : Store) (m : Option String) :
    (s.setHold m).order.isSome = s.order.isSome := by simp [Store.setHold]

@[simp] lemma hold_record (s : Store) (z : ZcashState) : (s.record z).hold = s.hold := rfl

@[simp] lemma captured_record (s : Store) (z : ZcashState) :
    (s.record z).captured = s.captured := rfl

lemma state_record (h : next.Valid .medusa) : (s.record next).state = next := readState_store h

/-! ### What every attempt keeps -/

/-- A session nobody else interferes with. A hold the plugin knows of is its own or gone. -/
structure Undisturbed (due : ℤ) (s : Store) : Prop where
  dueZat : s.dueZat = due
  closed : s.closed = false
  repriced : s.repriced = false
  reviewed : s.state.needsReview = false
  ordered : s.captured = true → s.order.isSome = true
  captures : s.captures = if s.captured then 1 else 0
  uncaptured : s.captured = false → s.state.hold = none ∧ s.hold = none
  own : s.state.hold = some .auto →
    ∃ m, s.state.holdMessage = some m ∧ (s.hold = none ∨ s.hold = some m)

/-- The order and the record agree on the hold. -/
def Store.Agrees (s : Store) : Prop := s.hold.isSome = true ↔ s.state.hold = some .auto

/-- The attempt gets to write the hold metadata of the order. -/
def Store.writesHold (s : Store) (a : Attempt) : Bool :=
  s.order.isSome && match decide (s.decideInput a.observation) with
  | .hold _ => s.state.hold.isNone && s.hold.isNone
  | .review _ short => short && s.state.hold.isNone && s.hold.isNone
  | .release _ => (liveTotal a.env.live).any (s.dueZat ≤ ·) && s.state.holdMessage.isSome &&
      s.hold == s.state.holdMessage
  | _ => false

/-- The attempt fails after it wrote the hold metadata and before it recorded it. -/
def Store.torn (s : Store) (a : Attempt) : Bool :=
  s.writesHold a && (a.env.faults .holdMetadata == some .after ||
    a.env.faults .holdMetadata == none &&
      (a.env.faults .emit != none || a.env.faults .session == some .before))

/-- The order and the record disagree in the way that makes the event come out wrong. -/
def Store.Lapsed (s : Store) (o : Observation) : Prop :=
  (o.settledZat : ℤ) < s.dueZat ∧ s.state.hold = some .auto ∧ s.hold = none ∨
  s.dueZat ≤ o.settledZat ∧ s.state.hold = none ∧ s.hold.isSome = true

/-- What an attempt from `s₀` leaves, whether it fails or not. -/
structure Kept (due : ℤ) (s₀ : Store) (a : Attempt) (s : Store) : Prop where
  undisturbed : Undisturbed due s
  version : s₀.state.stateVersion ≤ s.state.stateVersion
  agrees : s₀.torn a = false → s₀.Agrees → s.Agrees

/-- What an event recorded from `s₀` leaves. -/
structure Recorded (s₀ : Store) (o : Observation) (s : Store) : Prop where
  version : s.state.stateVersion = o.stateVersion
  follows : s.captured = true →
    ((s.hold.isSome = true ↔ (s.state.received : ℤ) < s.dueZat) ↔ ¬s₀.Lapsed o)

/-- The postcondition of `apply`. -/
def Answered (due : ℤ) (s₀ : Store) (a : Attempt) (b : Body) (s : Store) : Prop :=
  Kept due s₀ a s ∧ (b = .done → Recorded s₀ a.observation s)

lemma Kept.refl (h : Undisturbed due s₀) : Kept due s₀ a s₀ := ⟨h, le_rfl, fun _ => id⟩

lemma answered_ignored (h : Undisturbed due s₀) (why : String) :
    Answered due s₀ a (.ignored why) s₀ := ⟨Kept.refl h, by simp⟩

/-! ### One call at a time -/

lemma perform_spec {e : Effect} {f : Store → Store} {E : Store → Prop}
    (hb : env.faults e = some .before → E s) (ha : env.faults e = some .after → E (f s)) :
    Triple (· = s) (perform env e f) (fun _ s' => s' = f s ∧ env.faults e = none)
      (fun _ => E) := by
  rintro _ rfl
  unfold perform
  rcases h : env.faults e with _ | ⟨⟨⟩⟩
  · exact ⟨rfl, rfl⟩
  · exact hb h
  · exact ha h

/-- A session update is the last step: it is recorded unless the call fails beforehand. -/
lemma updateSession_spec (hi : env.faults .session = some .before → Kept due s₀ a s)
    (hr : Answered due s₀ a .done (s.record next)) :
    Triple (· = s) (updateSession env next) (Answered due s₀ a) (fun _ => Kept due s₀ a) := by
  refine (perform_spec hi fun _ => hr.1).bind fun _ => Triple.pure ?_
  rintro _ ⟨rfl, -⟩
  exact hr

/-! ### Recording an event -/

lemma valid_next {z : ZcashState} (hv : z.stateVersion ≤ maxSafeInteger)
    (hr : isZat z.receivedZat = true) (hm : z.holdMessage ≠ none → z.hold = some .auto)
    (hs : z.seenZat = none) : z.Valid .medusa :=
  ⟨hv, hr, fun h => ⟨rfl, hm h⟩, by simp [hs]⟩

lemma state_valid (s : Store) : s.state.Valid .medusa := readState_valid _ _

lemma seenZat_state (s : Store) : s.state.seenZat = none := by
  by_contra h
  obtain ⟨z, hz⟩ := Option.ne_none_iff_exists'.mp h
  exact absurd ((state_valid s).seen z hz).1 (by simp)

/-- The next state with the flags of the hold. -/
lemma valid_hold (s : Store) (o : Observation) {h : Option Hold} {m : Option String}
    (hm : m ≠ none → h = some .auto) :
    { s.next o with hold := h, holdMessage := m }.Valid .medusa :=
  valid_next o.safe (isZat_toString _) hm (seenZat_state s)

/-- **Recording**: `s` has the effects of the attempt done, and the hold is recorded as `h`
with the message `m`. -/
lemma answered_record {h : Option Hold} {m : Option String} (hs : Undisturbed due s)
    (h₀ : Undisturbed due s₀) (hnew : s₀.state.stateVersion < o.stateVersion)
    (ho : a.observation = o) (hm : m ≠ none → h = some .auto)
    (hown : h = some .auto → ∃ text, m = some text ∧ (s.hold = none ∨ s.hold = some text))
    (hopen : s.captured = false → h = none)
    (hagrees : s₀.torn a = false → s₀.Agrees → (s.hold.isSome = true ↔ h = some .auto))
    (hfollows : s.captured = true →
      ((s.hold.isSome = true ↔ (o.settledZat : ℤ) < due) ↔ ¬s₀.Lapsed o)) :
    Answered due s₀ a .done (s.record { s₀.next o with hold := h, holdMessage := m }) := by
  have hstate := state_record (s := s) (valid_hold s₀ o hm)
  have hreceived : ({ s₀.next o with hold := h, holdMessage := m } : ZcashState).received
      = o.settledZat := by
    show DecimalText.value (toString o.settledZat).toList = _
    rw [DecimalText.toList_toString, DecimalText.value_digits]
  refine ⟨⟨⟨hs.dueZat, hs.closed, hs.repriced, ?_, hs.ordered, hs.captures, ?_, ?_⟩, ?_, ?_⟩,
    fun _ => ⟨?_, ?_⟩⟩
  · rw [hstate]
    exact h₀.reviewed
  · rw [hstate]
    exact fun hc => ⟨hopen hc, (hs.uncaptured hc).2⟩
  · rw [hstate]
    exact hown
  · rw [hstate]
    exact hnew.le
  · intro ht hag
    rw [Store.Agrees, hstate]
    exact hagrees ht hag
  · rw [hstate, ho]
    rfl
  · rw [hstate, hreceived, ho, show (s.record _).dueZat = due from hs.dueZat]
    exact hfollows

/-! ### Writing the hold metadata -/

lemma torn_of_fault (hw : s₀.writesHold a = true)
    (hf : a.env.faults .holdMetadata = some .after ∨ a.env.faults .holdMetadata = none ∧
      (a.env.faults .emit ≠ none ∨ a.env.faults .session = some .before)) :
    s₀.torn a = true := by
  simp only [Store.torn, hw, Bool.true_and]
  rcases hf with h | ⟨h, h' | h'⟩
  · simp [h]
  · simp [h, h']
  · simp [h, h']

/-- The order is updated and the event emitted; a failure in between, or right after, tears. -/
lemma updateHold_spec {m : Option String} {message : String} (h₀ : Undisturbed due s₀)
    (hw : s₀.writesHold a = true) (ho : s₀.order.isSome = true)
    (hk : Undisturbed due (s₀.setHold m)) :
    Triple (· = s₀) (updateHold a.env s₀.order m message)
      (fun _ s' => s' = (s₀.setHold m).emit ⟨m.isSome, message⟩ ∧
        a.env.faults .holdMetadata = none ∧ a.env.faults .emit = none)
      (fun _ => Kept due s₀ a) := by
  have hk' : Undisturbed due ((s₀.setHold m).emit ⟨m.isSome, message⟩) :=
    ⟨hk.1, hk.2, hk.3, hk.4, hk.5, hk.6, hk.7, hk.8⟩
  have hset : setOrderMetadata a.env .holdMetadata s₀.order (·.setHold m)
      = perform a.env .holdMetadata (·.setHold m) := if_pos ho
  unfold updateHold
  rw [hset]
  refine (perform_spec (fun _ => Kept.refl h₀) fun hf => ?_).bind fun _ => ?_
  · exact ⟨hk, le_rfl, fun ht => absurd (torn_of_fault hw (.inl hf)) (by simp [ht])⟩
  · refine Triple.pre (Triple.of_pure (P := (· = s₀.setHold m)) fun hf => ?_)
      fun s hs => ⟨hs.2, hs.1⟩
    refine (perform_spec (fun he => ?_) fun he => ?_).post fun _ s hs => ⟨hs.1, hf, hs.2⟩
    · exact ⟨hk, le_rfl, fun ht =>
        absurd (torn_of_fault hw (.inr ⟨hf, .inl (by simp [he])⟩)) (by simp [ht])⟩
    · exact ⟨hk', le_rfl, fun ht =>
        absurd (torn_of_fault hw (.inr ⟨hf, .inl (by simp [he])⟩)) (by simp [ht])⟩

lemma undisturbed_setHold {m : Option String} (h₀ : Undisturbed due s₀)
    (hc : s₀.captured = true)
    (hm : s₀.state.hold = some .auto → m = none) : Undisturbed due (s₀.setHold m) where
  dueZat := h₀.dueZat
  closed := (closed_setHold s₀ m).trans h₀.closed
  repriced := h₀.repriced
  reviewed := h₀.reviewed
  ordered h := (isSome_setHold s₀ m).trans (h₀.ordered h)
  captures := h₀.captures
  uncaptured h := absurd (hc.symm.trans h) (by simp)
  own h := by
    obtain ⟨text, ht, -⟩ := h₀.own h
    exact ⟨text, ht, .inl ((hold_setHold (h₀.ordered hc) m).trans (hm h))⟩

/-! ### The branches of apply -/

lemma next_self (s : Store) (o : Observation) :
    { s.next o with hold := s.state.hold, holdMessage := s.state.holdMessage } = s.next o := rfl

lemma message_hold (s : Store) (h : s.state.holdMessage ≠ none) : s.state.hold = some .auto :=
  ((state_valid s).message h).2

/-- The event is recorded and the order left as it is. -/
lemma keep_spec (h₀ : Undisturbed due s₀)
    (hnew : s₀.state.stateVersion < a.observation.stateVersion)
    (hf : s₀.captured = true →
      ((s₀.hold.isSome = true ↔ (a.observation.settledZat : ℤ) < due) ↔
        ¬s₀.Lapsed a.observation)) :
    Triple (· = s₀) (updateSession a.env (s₀.next a.observation)) (Answered due s₀ a)
      (fun _ => Kept due s₀ a) := by
  refine updateSession_spec (fun _ => Kept.refl h₀) ?_
  rw [← next_self s₀]
  exact answered_record h₀ h₀ hnew rfl (message_hold s₀) h₀.own
    (fun hc => (h₀.uncaptured hc).1) (fun _ hag => hag) hf

lemma hold_spec {message : String} (h₀ : Undisturbed due s₀)
    (hd : decide (s₀.decideInput a.observation) = .hold message)
    (hnew : s₀.state.stateVersion < a.observation.stateVersion)
    (hc : s₀.captured = true) (hshort : (a.observation.settledZat : ℤ) < due) :
    Triple (· = s₀) (hold a.env s₀ (s₀.next a.observation) message >>= updateSession a.env)
      (Answered due s₀ a) (fun _ => Kept due s₀ a) := by
  have hdue := h₀.dueZat
  unfold hold
  split_ifs with hauto hhold
  · -- The hold is on record already.
    refine keep_spec h₀ hnew fun _ => ?_
    rcases hh : s₀.hold with _ | m <;> simp [Store.Lapsed, hauto, hh, hshort, hdue]
  · -- Somebody's hold is on the order; it is left alone.
    refine keep_spec h₀ hnew fun _ => ?_
    simp [Store.Lapsed, hauto, hhold, hshort, hdue, not_le.mpr hshort]
  · have hnone : s₀.state.hold = none := by
      rcases hh : s₀.state.hold with _ | ⟨⟨⟩⟩
      · rfl
      · exact absurd hh hauto
    have ho := h₀.ordered hc
    have hw : s₀.writesHold a = true := by
      simp [Store.writesHold, ho, hd, hnone, Option.not_isSome_iff_eq_none.mp hhold]
    have hk : Undisturbed due (s₀.setHold (some message)) :=
      undisturbed_setHold h₀ hc fun h => absurd h hauto
    refine Triple.bind
      (R := fun next s => next = { s₀.next a.observation with
          hold := some .auto, holdMessage := some message } ∧
        s = (s₀.setHold (some message)).emit ⟨true, message⟩ ∧
        a.env.faults .holdMetadata = none ∧ a.env.faults .emit = none) ?_ fun next => ?_
    · exact (updateHold_spec h₀ hw ho hk).bind fun _ => Triple.pure fun s hs => ⟨rfl, hs⟩
    · refine Triple.of_pure fun hnext => Triple.pre
        (Triple.of_pure (P := (· = (s₀.setHold (some message)).emit ⟨true, message⟩)) fun hf => ?_)
        fun s hs => ⟨hs.2, hs.1⟩
      subst hnext
      have hk' : Undisturbed due ((s₀.setHold (some message)).emit ⟨true, message⟩) :=
        ⟨hk.1, hk.2, hk.3, hk.4, hk.5, hk.6, hk.7, hk.8⟩
      have hset := hold_setHold ho (some message)
      refine updateSession_spec (fun hb => ⟨hk', le_rfl, fun ht =>
        absurd (torn_of_fault hw (.inr ⟨hf.1, .inr hb⟩)) (by simp [ht])⟩) ?_
      refine answered_record hk' h₀ hnew rfl (fun _ => rfl) (fun _ => ⟨message, rfl, .inr hset⟩)
        (fun h => absurd (hc.symm.trans h) (by simp)) (fun _ _ => ?_) fun _ => ?_
      · simp [hset]
      · simp [hset, Store.Lapsed, hnone, hhold, hshort]

lemma liveTotalZat_spec (h₀ : Undisturbed due s₀) :
    Triple (· = s₀) (liveTotalZat a.env)
      (fun live s => liveTotal a.env.live = some live ∧ s = s₀) (fun _ => Kept due s₀ a) := by
  unfold liveTotalZat
  cases h : liveTotal a.env.live with
  | none =>
    refine Triple.stop fun s hs => ?_
    rw [hs]
    exact Kept.refl h₀
  | some zat => exact Triple.pure fun s hs => ⟨rfl, hs⟩

/-- The rest of a branch that asks the service first. -/
lemma live_spec {k : ℕ → Route Body} (h₀ : Undisturbed due s₀)
    (hk : ∀ live : ℕ, liveTotal a.env.live = some live → due ≤ live →
      Triple (· = s₀) (k live) (Answered due s₀ a) (fun _ => Kept due s₀ a)) :
    Triple (· = s₀)
      (liveTotalZat a.env >>= fun live =>
        if live < s₀.dueZat then pure (.ignored "superseded") else k live)
      (Answered due s₀ a) (fun _ => Kept due s₀ a) := by
  refine (liveTotalZat_spec h₀).bind fun live => Triple.of_pure fun hlive => ?_
  refine Triple.ite (fun _ => Triple.pure fun s hs => ?_) fun hl => hk live hlive ?_
  · rw [hs]
    exact answered_ignored h₀ _
  · rw [← h₀.dueZat]
    omega

lemma release_spec {message : String} {live : ℕ} (h₀ : Undisturbed due s₀)
    (hd : decide (s₀.decideInput a.observation) = .release message)
    (hnew : s₀.state.stateVersion < a.observation.stateVersion)
    (hc : s₀.captured = true) (hfull : due ≤ a.observation.settledZat)
    (hauto : s₀.state.hold = some .auto) (hlive : liveTotal a.env.live = some live)
    (hl : due ≤ live) :
    Triple (· = s₀)
      (do
        if s₀.state.holdMessage.isSome ∧ s₀.hold = s₀.state.holdMessage then
          updateHold a.env s₀.order none message
        updateSession a.env
          { s₀.next a.observation with hold := none, holdMessage := none })
      (Answered due s₀ a) (fun _ => Kept due s₀ a) := by
  have hdue := h₀.dueZat
  have ho := h₀.ordered hc
  obtain ⟨text, hm, hown⟩ := h₀.own hauto
  have hlapsed : ¬s₀.Lapsed a.observation := by
    simp [Store.Lapsed, hauto, not_lt.mpr hfull, hdue]
  split_ifs with hown'
  · have hw : s₀.writesHold a = true := by
      simp [Store.writesHold, ho, hd, hlive, hdue, hl, hown'.1, hown'.2]
    have hk := undisturbed_setHold (m := none) h₀ hc fun _ => rfl
    have hk' : Undisturbed due ((s₀.setHold none).emit ⟨false, message⟩) :=
      ⟨hk.1, hk.2, hk.3, hk.4, hk.5, hk.6, hk.7, hk.8⟩
    have hset := hold_setHold ho none
    refine (updateHold_spec h₀ hw ho hk).bind fun _ => Triple.pre
      (Triple.of_pure (P := (· = (s₀.setHold none).emit ⟨false, message⟩)) fun hf => ?_)
      fun s hs => ⟨hs.2, hs.1⟩
    refine updateSession_spec (fun hb => ⟨hk', le_rfl, fun ht =>
      absurd (torn_of_fault hw (.inr ⟨hf.1, .inr hb⟩)) (by simp [ht])⟩) ?_
    refine answered_record hk' h₀ hnew rfl (fun h => absurd rfl h) (by simp) (fun _ => rfl)
      (fun _ _ => ?_) fun _ => ?_
    · simp [hset]
    · simp [hset, hlapsed, hfull]
  · -- The hold is gone from the order already.
    have hgone : s₀.hold = none := by
      rcases hown with h | h
      · exact h
      · exact absurd ⟨by simp [hm], h.trans hm.symm⟩ hown'
    refine updateSession_spec (fun _ => Kept.refl h₀) ?_
    refine answered_record h₀ h₀ hnew rfl (fun h => absurd rfl h) (by simp) (fun _ => rfl)
      (fun _ _ => ?_) fun _ => ?_
    · simp [hgone]
    · simp [hgone, hlapsed, hfull]

/-! ### The capture -/

/-- The workflow captures, when it gets that far and there is an order by then. -/
def Store.takes (s : Store) (run : WorkflowRun) : Bool :=
  run.captures && (run.completes || s.order.isSome)

lemma isSome_completed (c : Bool) (order : Option Order) :
    (if c then some (order.getD {}) else order).isSome = (c || order.isSome) := by
  cases c <;> simp

lemma process_of_takes {run : WorkflowRun} (h : s.takes run = true) :
    (s.process run).captured = true ∧ (s.process run).captures = s.captures + 1 := by
  have : (run.captures && (if run.completes then some (s.order.getD {}) else s.order).isSome)
      = true := by
    rw [isSome_completed]
    exact h
  simp only [Store.process, this, if_true, Store.captured, Option.any_some, and_self]

lemma process_of_not_takes {run : WorkflowRun} (h : s.takes run = false) :
    (s.process run).captured = s.captured ∧ (s.process run).captures = s.captures := by
  have : (run.captures && (if run.completes then some (s.order.getD {}) else s.order).isSome)
      = false := by
    rw [isSome_completed]
    exact h
  simp only [Store.process, this, Bool.false_eq_true, if_false, Store.captured, and_self]

/-- What the workflow leaves alone. -/
lemma process_frame (s : Store) (run : WorkflowRun) :
    (s.process run).dueZat = s.dueZat ∧ (s.process run).repriced = s.repriced ∧
      (s.process run).state = s.state := by
  unfold Store.process
  dsimp only
  split_ifs <;> exact ⟨rfl, rfl, rfl⟩

lemma process_order (s : Store) (run : WorkflowRun) :
    (s.process run).order = if run.completes then some (s.order.getD {}) else s.order := by
  unfold Store.process
  dsimp only
  split_ifs <;> rfl

lemma hold_process (s : Store) (run : WorkflowRun) : (s.process run).hold = s.hold := by
  rw [Store.hold, process_order]
  cases run.completes <;> cases h : s.order <;> simp [Store.hold, h]

lemma canceled_process (s : Store) (run : WorkflowRun) :
    (s.process run).order.any (·.canceled) = s.order.any (·.canceled) := by
  rw [process_order]
  cases run.completes <;> cases h : s.order <;> simp

lemma closed_process (s : Store) (run : WorkflowRun) : (s.process run).closed = s.closed := by
  unfold Store.closed
  rw [canceled_process]
  unfold Store.process
  dsimp only
  by_cases h : (run.captures && (if run.completes then some (s.order.getD {}) else s.order).isSome)
      = true
  · rw [if_pos h]
    cases hp : s.session.payment <;> simp
  · rw [if_neg h]

lemma undisturbed_process (h₀ : Undisturbed due s₀) (hc : s₀.captured = false)
    (run : WorkflowRun) : Undisturbed due (s₀.process run) := by
  obtain ⟨hdue, hrep, hstate⟩ := process_frame s₀ run
  obtain ⟨hauto, hhold⟩ := h₀.uncaptured hc
  have hcap := h₀.captures
  rw [hc] at hcap
  exact
    { dueZat := hdue.trans h₀.dueZat
      closed := (closed_process s₀ run).trans h₀.closed
      repriced := hrep.trans h₀.repriced
      reviewed := by rw [hstate, h₀.reviewed]
      ordered := fun h => by
        cases ht : s₀.takes run with
        | true =>
          rw [process_order]
          simp only [Store.takes, Bool.and_eq_true, Bool.or_eq_true] at ht
          rcases ht.2 with hcomp | ho
          · simp [hcomp]
          · cases run.completes <;> simp [ho]
        | false => exact absurd (hc.symm.trans ((process_of_not_takes ht).1.symm.trans h)) (by simp)
      captures := by
        cases ht : s₀.takes run with
        | true => simp [process_of_takes ht, hcap]
        | false => simp [process_of_not_takes ht, hcap, hc]
      uncaptured := fun _ => ⟨by rw [hstate, hauto], (hold_process s₀ run).trans hhold⟩
      own := fun h => by simp [hstate, hauto] at h }

lemma capture_spec (h₀ : Undisturbed due s₀)
    (hnew : s₀.state.stateVersion < a.observation.stateVersion)
    (hc : s₀.captured = false) (hfull : due ≤ a.observation.settledZat) :
    Triple (· = s₀) (capture a.env a.observation (s₀.next a.observation)) (Answered due s₀ a)
      (fun _ => Kept due s₀ a) := by
  have hdue := h₀.dueZat
  obtain ⟨hauto, hhold⟩ := h₀.uncaptured hc
  have hp := undisturbed_process h₀ hc a.env.workflow
  have hhold' : (s₀.process a.env.workflow).hold = none := (hold_process s₀ _).trans hhold
  have hstate := (process_frame s₀ a.env.workflow).2.2
  have hk : Kept due s₀ a (s₀.process a.env.workflow) :=
    ⟨hp, by rw [hstate], fun _ _ => by simp [Store.Agrees, hstate, hauto, hhold']⟩
  unfold capture
  refine Triple.bind (R := fun s s' => s = s₀ ∧ s' = s₀) (Triple.get fun s hs => ⟨hs, hs⟩)
    fun s => Triple.of_pure ?_
  rintro rfl
  refine Triple.ite (fun _ => Triple.stop fun s' hs => by rw [hs]; exact Kept.refl h₀) fun _ => ?_
  refine (perform_spec (fun _ => Kept.refl h₀) fun _ => hk).bind fun _ => ?_
  refine Triple.bind (R := fun s₁ s' => s₁ = s.process a.env.workflow ∧ s' = s₁)
    (Triple.get fun s₁ hs => ⟨hs.1, rfl⟩) fun s₁ => Triple.of_pure ?_
  rintro rfl
  refine Triple.ite (fun _ => Triple.stop fun s' hs => by rw [hs]; exact hk) fun hcap => ?_
  refine Triple.ite (fun hcanceled => ?_) fun _ => ?_
  · -- Nobody cancels the order.
    have hclosed := h₀.closed
    rw [canceled_process] at hcanceled
    simp [Store.closed, hcanceled] at hclosed
  · refine updateSession_spec (fun _ => hk) ?_
    rw [← next_self s]
    refine answered_record hp h₀ hnew rfl (message_hold s) (fun h => absurd h (by simp [hauto]))
      (fun _ => hauto) (fun _ _ => by simp [hhold', hauto]) fun _ => ?_
    simp [hhold', Store.Lapsed, hauto, hhold, hfull]

/-- **An attempt**: whatever fails, the session stays undisturbed and its version does not fall;
an event that is recorded leaves the hold right exactly when the order and the record had not
lapsed. -/
lemma apply_spec (h₀ : Undisturbed due s₀) (a : Attempt) :
    Triple (· = s₀) (apply a.env a.observation) (Answered due s₀ a)
      (fun _ => Kept due s₀ a) := by
  have hcases := decideAs_cases "captured" (s₀.decideInput a.observation)
  have hdue := h₀.dueZat
  have hshort : (s₀.decideInput a.observation).short = true ↔
      (a.observation.settledZat : ℤ) < due := by
    unfold DecideInput.short
    rw [decide_eq_true_iff, ← hdue]
    show 0 < s₀.dueZat ∧ (a.observation.settledZat : ℤ) < s₀.dueZat ↔ _
    omega
  have hignored : ∀ why, Triple (· = s₀) (pure (.ignored why) : Route Body) (Answered due s₀ a)
      (fun _ => Kept due s₀ a) := fun why => Triple.pure fun s hs => by
    rw [hs]
    exact answered_ignored h₀ why
  unfold apply
  refine Triple.bind (R := fun s s' => s = s₀ ∧ s' = s₀) (Triple.get fun s hs => ⟨hs, hs⟩)
    fun s => Triple.of_pure ?_
  rintro rfl
  refine Triple.ite (fun _ => hignored _) fun _ => ?_
  rw [show decideAs "captured" (s.decideInput a.observation)
    = decide (s.decideInput a.observation) from rfl] at hcases
  have hlapsed : s.state.hold = none → ¬(a.observation.settledZat : ℤ) < due →
      ((s.hold.isSome = true ↔ (a.observation.settledZat : ℤ) < due) ↔
        ¬s.Lapsed a.observation) := fun hh hs => by
    simp [Store.Lapsed, hh, hs, hdue, not_lt.mp hs]
  dsimp only
  split <;> rename_i hd <;> rw [hd] at hcases <;> dsimp only at hcases
  case h_1 => exact hignored _
  case h_2 message short =>
    -- Nothing puts an undisturbed session under review.
    obtain ⟨-, -, h | h | ⟨-, h⟩⟩ := hcases
    · exact absurd (h₀.reviewed.symm.trans h) (by simp)
    · exact absurd (h₀.closed.symm.trans h) (by simp)
    · exact absurd (h₀.repriced.symm.trans h) (by simp)
  case h_3 message =>
    obtain ⟨happ, hp, hs⟩ := hcases
    exact hold_spec h₀ hd happ.newer hp (hshort.mp hs)
  case h_4 message =>
    obtain ⟨happ, hp, hs, hh⟩ := hcases
    have hfull : due ≤ a.observation.settledZat := by
      simpa [hs] using hshort
    exact live_spec h₀ fun live hlive hl => release_spec h₀ hd happ.newer hp hfull hh hlive hl
  case h_5 message =>
    obtain ⟨happ, hp, hs, hh⟩ := hcases
    exact keep_spec h₀ happ.newer fun _ => hlapsed hh (by simp [← hshort, hs])
  case h_6 message =>
    obtain ⟨happ, hp⟩ := hcases
    exact keep_spec h₀ happ.newer fun hc => absurd (hp.symm.trans hc) (by simp)
  case h_7 message =>
    obtain ⟨happ, hp⟩ := hcases
    exact keep_spec h₀ happ.newer fun hc => absurd (hp.symm.trans hc) (by simp)
  case h_8 =>
    obtain ⟨happ, hp, -, -, hd⟩ := hcases
    exact live_spec h₀ fun live hlive hl => capture_spec h₀ happ.newer hp (hdue ▸ hd)

/-! ### Every run of attempts -/

/-- No attempt of the run fails between the hold metadata of the order and its own record. -/
def Store.Untorn (s : Store) : List Attempt → Prop
  | [] => True
  | a :: as => s.torn a = false ∧ (s.attempt a).2.Untorn as

lemma attempt_kept (h : Undisturbed due s) (a : Attempt) : Kept due s a (s.attempt a).2 :=
  ((apply_spec h a).post fun _ _ hb => hb.1).final rfl

lemma attempt_done (h : Undisturbed due s) (hd : s.attempt a = (.ok .done, s₁)) :
    Recorded s a.observation s₁ :=
  ((apply_spec h a).returns rfl hd).2 rfl

lemma undisturbed_run (h : Undisturbed due s) (as : List Attempt) :
    Undisturbed due (s.run as) := by
  induction as generalizing s with
  | nil => exact h
  | cons a as ih => exact ih (attempt_kept h a).undisturbed

lemma version_run (h : Undisturbed due s) (as : List Attempt) :
    s.state.stateVersion ≤ (s.run as).state.stateVersion := by
  induction as generalizing s with
  | nil => exact le_rfl
  | cons a as ih =>
    have hk := attempt_kept h a
    exact hk.version.trans (ih hk.undisturbed)

lemma agrees_run (h : Undisturbed due s) (hag : s.Agrees) {as : List Attempt}
    (hu : s.Untorn as) : (s.run as).Agrees := by
  induction as generalizing s with
  | nil => exact hag
  | cons a as ih =>
    have hk := attempt_kept h a
    exact ih hk.undisturbed (hk.agrees hu.1 hag) hu.2

lemma not_lapsed (h : s.Agrees) (o : Observation) : ¬s.Lapsed o := by
  rintro (⟨-, hauto, hnone⟩ | ⟨-, hnone, hsome⟩)
  · simpa [hnone] using h.mpr hauto
  · simpa [hnone] using h.mp hsome

lemma undisturbed_issued (address paymentId priced : String) (due : ℤ) (placed : Bool) :
    Undisturbed due (issued address paymentId due priced placed) where
  dueZat := rfl
  closed := by cases placed <;> rfl
  repriced := by simp [issued, Store.repriced]
  reviewed := rfl
  ordered h := by simp [issued, Store.captured] at h
  captures := rfl
  uncaptured _ := ⟨rfl, by cases placed <;> rfl⟩
  own h := absurd h (by simp [issued, Store.state, readState])

/-- **The hold and the funds**: over every run of attempts, each of which may fail at any call,
the capture takes effect at most once and the recorded version never falls. An event recorded on
a captured session leaves the hold metadata set exactly when less than the due amount is recorded
if and only if the order and the record had not lapsed; and in a run in which no attempt fails
between the hold metadata and the session update, that is always so. -/
theorem hold_follows_funds_iff (address paymentId priced : String) (due : ℤ) (placed : Bool)
    (as : List Attempt) :
    let start := issued address paymentId due priced placed
    let s := start.run as
    s.captures ≤ 1 ∧
    (∀ more, s.state.stateVersion ≤ (s.run more).state.stateVersion) ∧
    (∀ a s', s.attempt a = (.ok .done, s') →
      s'.state.stateVersion = a.observation.stateVersion ∧
      (s'.captured = true →
        ((s'.hold.isSome = true ↔ (s'.state.received : ℤ) < due) ↔ ¬s.Lapsed a.observation))) ∧
    (start.Untorn as → ∀ a s', s.attempt a = (.ok .done, s') → s'.captured = true →
      (s'.hold.isSome = true ↔ (s'.state.received : ℤ) < due)) := by
  intro start s
  have hstart : Undisturbed due start := undisturbed_issued ..
  have hs : Undisturbed due s := undisturbed_run hstart as
  have hdone : ∀ a s', s.attempt a = (.ok .done, s') → s'.captured = true →
      ((s'.hold.isSome = true ↔ (s'.state.received : ℤ) < due) ↔ ¬s.Lapsed a.observation) := by
    intro a s' h hc
    have hdue : s'.dueZat = due := by
      have := (attempt_kept hs a).undisturbed.dueZat
      rwa [h] at this
    rw [← hdue]
    exact (attempt_done hs h).follows hc
  refine ⟨?_, version_run hs, fun a s' h => ⟨(attempt_done hs h).version, hdone a s' h⟩,
    fun hu a s' h hc => (hdone a s' h hc).mpr (not_lapsed ?_ _)⟩
  · rw [hs.captures]
    split_ifs <;> omega
  · exact agrees_run hstart (by cases placed <;> simp [start, Store.Agrees, issued, Store.hold,
      Store.state, readState]) hu

/-! ### A hold that stays -/

/-- The status call answers with one ZEC. -/
def testEnv : Env where
  live := some ⟨"1.00000000", none⟩

/-- The attempt fails right after the hold metadata is set. -/
def tornEnv : Env := { testEnv with
  faults := fun e => if e = .holdMetadata then some .after else none }

/-- A drop is announced after the capture, the attempt fails after setting the hold, and the event
is sent again. Then the funds are back: the next event is recorded, and the hold stays. -/
theorem hold_stays_after_a_torn_attempt :
    let drop := testEvent 2 0 (by decide)
    let s := (issued "u1" "ab12" 100000000 "1 zec" true).run
      [⟨testEvent 1 100000000 (by decide), testEnv⟩, ⟨drop, tornEnv⟩, ⟨drop, testEnv⟩]
    let r := s.attempt ⟨testEvent 3 100000000 (by decide), testEnv⟩
    r.1 = .ok .done ∧ r.2.captured = true ∧ r.2.hold.isSome = true ∧
      ¬(r.2.state.received : ℤ) < 100000000 := by
  decide +kernel

end ZcashPayment.Medusa

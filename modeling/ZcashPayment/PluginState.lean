import ZcashPayment.PluginZcash

/-!
What the shop plugins remember of a payment, and the decision they take on an event.

The two plugins differ in a word of one message, in which of the optional fields they keep, and
in that only the Medusa plugin looks at the price of the session.
-/

namespace ZcashPayment

open DecimalText

inductive Hold where
  | auto
  deriving DecidableEq, Repr

/-- What a plugin remembers per payment. -/
structure ZcashState where
  /-- Highest version applied. -/
  stateVersion : ℕ := 0
  /-- Confirmed total at that version, in zatoshis. -/
  receivedZat : String := "0"
  /-- `auto` while the plugin holds a paid order because its funds dropped. -/
  hold : Option Hold := none
  /-- The exact hold message the plugin wrote; only the Medusa plugin keeps it. -/
  holdMessage : Option String := none
  /-- Everything seen at that version; only the Vendure plugin keeps it. -/
  seenZat : Option String := none
  /-- Set once funds must be reconciled by hand. -/
  needsReview : Bool := false
  deriving DecidableEq, Repr

/-- The confirmed total as a number. -/
def ZcashState.received (s : ZcashState) : ℕ := value s.receivedZat.toList

/-- `metadata.zcash` as it is stored. A field that is missing, or of another type than the
plugin expects, is `none`; the version is the integer `Number` makes of it. -/
structure RawZcash where
  stateVersion : Option ℤ := none
  receivedZat : Option String := none
  hold : Option String := none
  holdMessage : Option String := none
  seenZat : Option String := none
  needsReview : Option Bool := none
  deriving DecidableEq, Repr

inductive Plugin where
  | medusa
  | vendure
  deriving DecidableEq, Repr

/-- `/^\d+$/` -/
def isZat (s : String) : Bool := decide (s.toList ≠ [] ∧ AllDigits s.toList)

/-- Reads the state from metadata, tolerating anything malformed. -/
def readState (p : Plugin) (metadata : Option RawZcash) : ZcashState :=
  let raw := metadata.getD {}
  let version := raw.stateVersion.getD (-1)
  let held := raw.hold = some "auto"
  { stateVersion := if 0 ≤ version ∧ version ≤ maxSafeInteger then version.toNat else 0
    receivedZat := (raw.receivedZat.filter isZat).getD "0"
    hold := if held then some .auto else none
    holdMessage := if p = .medusa ∧ held then raw.holdMessage else none
    seenZat := if p = .vendure then raw.seenZat.filter isZat else none
    needsReview := raw.needsReview = some true }

def Hold.text : Hold → String
  | .auto => "auto"

/-- The object as `JSON.stringify` stores it. -/
def ZcashState.store (s : ZcashState) : RawZcash where
  stateVersion := some s.stateVersion
  receivedZat := some s.receivedZat
  hold := s.hold.map Hold.text
  holdMessage := s.holdMessage
  seenZat := s.seenZat
  needsReview := if s.needsReview then some true else none

/-- What `readState` can return. -/
structure ZcashState.Valid (p : Plugin) (s : ZcashState) : Prop where
  version : s.stateVersion ≤ maxSafeInteger
  received : isZat s.receivedZat = true
  message : s.holdMessage ≠ none → p = .medusa ∧ s.hold = some .auto
  seen : ∀ z ∈ s.seenZat, p = .vendure ∧ isZat z = true

lemma isZat_toString (n : ℕ) : isZat (toString n) = true := by
  rw [isZat, toList_toString]
  simp [digits_ne_nil, allDigits_digits]

lemma readState_valid (p : Plugin) (metadata : Option RawZcash) :
    (readState p metadata).Valid p where
  version := by
    simp only [readState]
    split_ifs with h
    · omega
    · exact Nat.zero_le _
  received := by
    simp only [readState]
    cases h : (metadata.getD {}).receivedZat.filter isZat with
    | none => rfl
    | some z => exact (Option.filter_eq_some_iff.mp h).2
  message h := by
    simp only [readState, ne_eq, ite_eq_right_iff, not_forall] at h
    obtain ⟨⟨hp, hh⟩, -⟩ := h
    exact ⟨hp, if_pos hh⟩
  seen z h := by
    simp only [readState] at h
    split_ifs at h with hp
    · exact ⟨hp, (Option.filter_eq_some_iff.mp h).2⟩
    · exact absurd h (by simp)

/-- **Round trip**: what a plugin stored is what it reads. -/
lemma readState_store {p : Plugin} {s : ZcashState} (h : s.Valid p) :
    readState p (some s.store) = s := by
  obtain ⟨hv, hr, hm, hs⟩ := h
  obtain ⟨version, received, hold, message, seen, review⟩ := s
  simp only at hv hr hm hs
  have hv' : (0 : ℤ) ≤ version ∧ (version : ℤ) ≤ maxSafeInteger := ⟨by omega, by omega⟩
  have hh : hold.map Hold.text = some "auto" ↔ hold = some .auto := by
    rcases hold with _ | ⟨⟨⟩⟩ <;> simp [Hold.text]
  simp only [readState, ZcashState.store, Option.getD_some, hv', and_self, if_true,
    Int.toNat_natCast, hh, Option.filter_some, hr, ZcashState.mk.injEq, true_and]
  refine ⟨?_, ?_, ?_, ?_⟩
  · rcases hold with _ | ⟨⟨⟩⟩ <;> simp
  · split_ifs with hc
    · rfl
    · by_contra hne
      exact hc (hm fun h0 => hne h0.symm)
  · cases seen with
    | none => simp
    | some z => simp [(hs z rfl).1, (hs z rfl).2, Option.filter]
  · cases review <;> simp

/-! ### The decision -/

structure DecideInput where
  state : ZcashState
  /-- The confirmed amount. -/
  totalZat : ℕ
  /-- Everything received, mempool included. -/
  seenZat : Option ℕ
  stateVersion : ℕ
  dueZat : ℤ
  /-- The payment was captured, or settled: the order is paid. -/
  paid : Bool
  /-- The order was canceled, or the payment refunded or canceled. -/
  closed : Bool
  /-- The session's price is no longer what the address was issued for. -/
  repriced : Bool

inductive Decision where
  | stale
  | review (message : String) (hold : Bool)
  | hold (message : String)
  | release (message : String)
  | note (message : String)
  | capture
  | partialPayment (message : String)
  | pending (message : String)
  deriving DecidableEq, Repr

/-- Less is confirmed than is due. -/
def DecideInput.short (i : DecideInput) : Bool := decide (0 < i.dueZat ∧ i.totalZat < i.dueZat)

/-- Why the event is not applied automatically. -/
def DecideInput.review (i : DecideInput) : Option String :=
  let zec := zatToZec i.totalZat
  if i.state.needsReview then
    some (s!"Zcash total for this payment is now {zec} ZEC. A payment for it is under manual " ++
      "review, so this was not applied automatically.")
  else if i.closed then
    some (s!"Received {zec} ZEC after the order or payment was closed. Not applied " ++
      "automatically; review stock and refund or reconcile by hand.")
  else if !i.paid && i.repriced then
    some (s!"Received {zec} ZEC, but the amount changed after the Zcash address was issued. " ++
      "Not applied automatically; reconcile by hand.")
  else none

/-- The rules; `captured` is the plugin's word for a payment that has been taken. -/
def decideAs (captured : String) (i : DecideInput) : Decision :=
  -- Deliveries can arrive out of order.
  if i.stateVersion ≤ i.state.stateVersion then .stale
  else
    let zec := zatToZec i.totalZat
    let due := zatToZec i.dueZat
    match i.review with
    | some message => .review message (i.paid && i.short)
    | none =>
      if i.paid then
        if i.short then
          .hold (s!"Zcash funds for this paid order dropped to {zec} of {due} ZEC (a " ++
            "transaction was dropped or reorganized out). Check before fulfilling.")
        else if i.state.hold = some .auto then
          .release s!"Zcash funds recovered to {zec} ZEC. Hold released."
        else .note s!"Zcash total for this order is now {zec} ZEC."
      else if 0 < i.dueZat ∧ i.dueZat ≤ i.totalZat then .capture
      else
        let seen := i.seenZat.getD i.totalZat
        if 0 < i.dueZat ∧ i.dueZat ≤ seen then
          .pending (s!"Payment of {zatToZec seen} ZEC received, pending confirmation. It is " ++
            s!"{captured} once confirmed.")
        else .partialPayment s!"Received {zatToZec seen} of {due} ZEC so far."

/-- An event above the recorded version that nothing keeps from being applied. -/
structure DecideInput.Applies (i : DecideInput) : Prop where
  newer : i.state.stateVersion < i.stateVersion
  reviewed : i.state.needsReview = false
  closed : i.closed = false

/-- **Inversion** of the decision: under which circumstances each kind is taken. -/
lemma decideAs_cases (w : String) (i : DecideInput) :
    match decideAs w i with
    | .stale => i.stateVersion ≤ i.state.stateVersion
    | .review _ hold => i.state.stateVersion < i.stateVersion ∧ hold = (i.paid && i.short) ∧
        (i.state.needsReview = true ∨ i.closed = true ∨ i.paid = false ∧ i.repriced = true)
    | .hold _ => i.Applies ∧ i.paid = true ∧ i.short = true
    | .release _ => i.Applies ∧ i.paid = true ∧ i.short = false ∧ i.state.hold = some .auto
    | .note _ => i.Applies ∧ i.paid = true ∧ i.short = false ∧ i.state.hold = none
    | .capture => i.Applies ∧ i.paid = false ∧ i.repriced = false ∧
        0 < i.dueZat ∧ i.dueZat ≤ i.totalZat
    | .partialPayment _ | .pending _ => i.Applies ∧ i.paid = false := by
  unfold decideAs
  by_cases hv : i.stateVersion ≤ i.state.stateVersion
  · simp [hv]
  have hv' : i.state.stateVersion < i.stateVersion := by omega
  simp only [hv, if_false]
  rcases hr : i.review with _ | message
  · have ⟨hn, hc, hp⟩ : i.state.needsReview = false ∧ i.closed = false ∧
        (i.paid = false → i.repriced = false) := by
      unfold DecideInput.review at hr
      split_ifs at hr with h1 h2 h3
      exact ⟨by simpa using h1, by simpa using h2, by simpa using h3⟩
    have ha : i.Applies := ⟨hv', hn, hc⟩
    cases hpaid : i.paid with
    | true =>
      cases hs : i.short with
      | true => exact ⟨ha, rfl, rfl⟩
      | false =>
        rcases hh : i.state.hold with _ | ⟨⟨⟩⟩
        · exact ⟨ha, rfl, rfl, rfl⟩
        · exact ⟨ha, rfl, rfl, rfl⟩
    | false =>
      simp only [Bool.false_eq_true, if_false]
      by_cases hc : 0 < i.dueZat ∧ i.dueZat ≤ i.totalZat
      · rw [if_pos hc]
        exact ⟨ha, trivial, hp hpaid, hc⟩
      · rw [if_neg hc]
        by_cases hs : 0 < i.dueZat ∧ i.dueZat ≤ ((i.seenZat.getD i.totalZat : ℕ) : ℤ)
        · rw [if_pos hs]
          exact ⟨ha, trivial⟩
        · rw [if_neg hs]
          exact ⟨ha, trivial⟩
  · refine ⟨hv', rfl, ?_⟩
    unfold DecideInput.review at hr
    split_ifs at hr with h1 h2 h3
    · exact .inl h1
    · exact .inr (.inl h2)
    · exact .inr (.inr (by simpa using h3))

end ZcashPayment

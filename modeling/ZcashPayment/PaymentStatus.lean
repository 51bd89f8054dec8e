import ZcashPayment.PaymentUri

/-!
The state of a payment link.

The status route judges the received total against the requested amount, which is the text a
shop sent. After a partial payment it asks only for what is still owed.
-/

namespace ZcashPayment

open DecimalText

inductive PaymentStatus | awaitingPayment | partiallyPaid | paid | received
  deriving DecidableEq, Repr

def paymentStatusFor (amount : Option String) (totalZat : ℤ) : PaymentStatus :=
  match amount.bind parseZecAmount with
  | some requested =>
    if totalZat ≥ requested then .paid
    else if totalZat ≤ 0 then .awaitingPayment
    else .partiallyPaid
  | none => if totalZat ≤ 0 then .awaitingPayment else .received

/-- The amount still owed, as ZEC text. -/
def remainingAmount (requested : Option String) (receivedZat : ℤ) : Option String :=
  requested.map fun requestedText =>
    match parseZecAmount requestedText with
    | some requestedZat =>
      if receivedZat > 0 ∧ receivedZat < requestedZat then
        formatZatAsZec (requestedZat - receivedZat)
      else requestedText
    | none => requestedText

/-! ### payment_status -/

/-- A payment link with its address, its request and the totals of its address. -/
structure PaymentLinkRecord where
  paymentId : String
  unifiedAddress : String
  requestLabel : Option String
  requestMemo : Option String
  requestMessage : Option String
  requestedAmount : Option String
  returnUrl : Option String
  createdAt : Timestamp
  currentTotalZat : ℤ
  stateVersion : ℕ
  receivedByConfirmationsZat : Option (List ℤ)

structure PaymentStatusResponse where
  paymentId : String
  address : String
  qrText : String
  payUrl : String
  label : Option String
  message : Option String
  amount : Option String
  totalReceived : String
  receivedByConfirmations : Option (List String)
  stateVersion : ℕ
  status : PaymentStatus
  returnUrl : Option String
  createdAt : Timestamp

/-- What the route reads of the service. -/
structure LinkSettings where
  publicBaseUrl : Option String
  requiredConfirmations : Option ℕ

def LinkSettings.payUrl (settings : LinkSettings) (paymentId : String) : String :=
  settings.publicBaseUrl.getD "" ++ "/pay/" ++ paymentId

/-- Why a status cannot be answered. -/
inductive StatusError
  | notFound (message : String)
  | failed (error : AppError)

def isPaymentId (value : String) : Bool :=
  byteLen value.toList = 32 &&
    value.toList.all fun c => c.isDigit || ('a' ≤ c && c ≤ 'f')

/-- The answer for a link. -/
def statusOf (settings : LinkSettings) (record : PaymentLinkRecord) : PaymentStatusResponse :=
  let amount := nonBlank record.requestedAmount
  -- After a partial payment only what is still owed is requested.
  let requestAmount := remainingAmount amount record.currentTotalZat
  { qrText := buildQrText record.unifiedAddress requestAmount record.requestMemo
      record.requestMessage
    payUrl := settings.payUrl record.paymentId
    paymentId := record.paymentId
    address := record.unifiedAddress
    label := record.requestLabel
    message := record.requestMessage
    amount
    totalReceived := formatZatAsZec record.currentTotalZat
    receivedByConfirmations := settings.requiredConfirmations.map fun required =>
      formatZatArray (record.receivedByConfirmationsZat.getD (List.replicate (required + 1) 0))
    stateVersion := record.stateVersion
    status := paymentStatusFor amount record.currentTotalZat
    returnUrl := record.returnUrl
    createdAt := record.createdAt }

/-- `findPaymentLink` reads the link with an id. -/
def paymentStatus (findPaymentLink : String → Except AppError (Option PaymentLinkRecord))
    (settings : LinkSettings) (paymentId : String) : Except StatusError PaymentStatusResponse :=
  if ¬isPaymentId paymentId then .error (.notFound "unknown payment")
  else
    match findPaymentLink paymentId with
    | .error e => .error (.failed e)
    | .ok none => .error (.notFound "unknown payment")
    | .ok (some record) => .ok (statusOf settings record)

/-! ### What is owed -/

/-- Part of the requested amount has arrived: `r` zatoshis were requested. -/
def OwedPart (requested : Option String) (totalZat : ℤ) (r : ℕ) : Prop :=
  requested.bind parseZecAmount = some r ∧ 0 < totalZat ∧ totalZat < r

variable {requested : Option String} {totalZat : ℤ} {r : ℕ} {text : String}

lemma i64Max_of_parse (h : parseZecAmount text = some r) : r ≤ i64Max := by
  obtain ⟨-, -, -, -, hle⟩ := parseZecAmount_eq_some.mp h
  exact hle

/-- A blank text has no digit. -/
lemma parse_nonBlank (requested : Option String) :
    (nonBlank requested).bind parseZecAmount = requested.bind parseZecAmount := by
  rcases requested with _ | text
  · rfl
  · by_cases hblank : trimSpace text = []
    · have hnone : parseZecAmount text = none := by
        unfold parseZecAmount
        rw [hblank]
        rfl
      rw [nonBlank, Option.filter_some, if_neg (by simpa using hblank), Option.bind_some, hnone]
      rfl
    · rw [nonBlank, Option.filter_some, if_pos (by simpa using hblank)]

lemma status_partiallyPaid_iff :
    paymentStatusFor requested totalZat = .partiallyPaid ↔ ∃ r, OwedPart requested totalZat r := by
  unfold paymentStatusFor OwedPart
  rcases requested.bind parseZecAmount with _ | r
  · simp only
    split_ifs <;> simp
  · simp only [Option.some.injEq]
    split_ifs with h1 h2
    · simp only [false_iff, not_exists, not_and]
      rintro r' rfl _
      omega
    · simp only [false_iff, not_exists, not_and]
      intro r' _ hpos
      omega
    · simp only [true_iff]
      exact ⟨r, rfl, by omega, by omega⟩

lemma status_paid_iff (requested : Option String) (totalZat : ℤ) :
    paymentStatusFor requested totalZat = .paid ↔
      ∃ r, requested.bind parseZecAmount = some r ∧ (r : ℤ) ≤ totalZat := by
  unfold paymentStatusFor
  rcases requested.bind parseZecAmount with _ | r
  · simp only
    split_ifs <;> simp
  · simp only [Option.some.injEq]
    split_ifs with h1 h2
    · simp only [true_iff]
      exact ⟨r, rfl, h1⟩
    all_goals
      simp only [false_iff, not_exists, not_and]
      rintro r' rfl
      exact h1

/-- What is still owed is asked for exactly. -/
lemma remaining_of_owed (h : OwedPart requested totalZat r) :
    ∃ text, remainingAmount requested totalZat = some text ∧
      parseZecAmount text = some (r - totalZat.toNat) ∧ requested ≠ some text := by
  obtain ⟨hparse, hpos, hlt⟩ := h
  obtain ⟨given, rfl, hgiven⟩ := Option.bind_eq_some_iff.mp hparse
  have hle := i64Max_of_parse hgiven
  have hrest : ((r : ℤ) - totalZat) = ((r - totalZat.toNat : ℕ) : ℤ) := by omega
  refine ⟨formatZatAsZec (r - totalZat), ?_, ?_, fun heq => ?_⟩
  · simp only [remainingAmount, Option.map_some, hgiven]
    rw [if_pos ⟨hpos, hlt⟩]
  · rw [hrest]
    exact parseZecAmount_format (by omega)
  · -- The same text would parse to the same number.
    have hsame := Option.some.inj heq
    rw [hsame, hrest, parseZecAmount_format (by omega)] at hgiven
    have := Option.some.inj hgiven
    omega

/-- In every other case the text is the one that was given. -/
lemma remaining_of_not_owed (h : ¬∃ r, OwedPart requested totalZat r) :
    remainingAmount requested totalZat = requested := by
  rcases requested with _ | text
  · rfl
  · rw [remainingAmount, Option.map_some]
    rcases hp : parseZecAmount text with _ | r
    · rfl
    · simp only
      rw [if_neg fun hr => h ⟨r, hp, hr⟩]

end ZcashPayment

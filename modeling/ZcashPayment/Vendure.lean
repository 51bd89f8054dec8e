import ZcashPayment.PluginState

/-!
The webhook of the Vendure plugin.

`apply` runs in one transaction: what it wrote is kept when it returns and undone when it throws.
Around it other parties cancel the order, refund it, or close the payment; they never settle it
and do not touch the metadata.
-/

namespace ZcashPayment.Vendure

inductive PaymentState where
  | created
  | authorized
  | settled
  | cancelled
  | declined
  | error
  deriving DecidableEq, Repr

def closedPaymentStates : List PaymentState := [.cancelled, .declined, .error]

inductive RefundState where
  | pending
  | settled
  | failed
  deriving DecidableEq, Repr

/-- What the handler wrote when it issued the address, and the plugin's state. The amount is
what `BigInt` makes of its text. -/
structure PaymentMetadata where
  handler : Option String
  paymentId : Option String
  address : Option String
  amountZat : Option ℤ
  zcash : Option RawZcash := none
  deriving DecidableEq, Repr

structure Payment where
  state : PaymentState
  transactionId : String
  metadata : PaymentMetadata
  refunds : List RefundState := []
  deriving DecidableEq, Repr

structure Order where
  code : String
  cancelled : Bool := false
  deriving DecidableEq, Repr

inductive PluginEvent where
  | hold (held : Bool) (message : String)
  | review (message : String)
  deriving DecidableEq, Repr

/-- A settlement: the amount the event reported, and the two the service was asked for. -/
structure Settlement where
  event : ℕ
  live : ℕ
  confirmed : ℕ
  deriving DecidableEq, Repr

/-- One payment and its order, with the order's history, the events published, and the
settlements that were committed. -/
structure Shop where
  payment : Payment
  order : Order
  history : List String := []
  published : List PluginEvent := []
  settlements : List Settlement := []
  deriving DecidableEq, Repr

def handlerCode : String := "zcash"

def isZcashPayment (p : Payment) : Bool :=
  decide (p.metadata.handler = some handlerCode ∧ p.metadata.paymentId ≠ none ∧
    p.metadata.address = some p.transactionId)

/-- A payment as `createPayment` returns it. -/
def issued (code address paymentId : String) (amountZat : ℤ) : Shop where
  payment :=
    { state := .authorized
      transactionId := address
      metadata :=
        { handler := some handlerCode
          paymentId := some paymentId
          address := some address
          amountZat := some amountZat } }
  order := { code }

def Shop.dueZat (s : Shop) : ℤ := s.payment.metadata.amountZat.getD 0

def Shop.state (s : Shop) : ZcashState := readState .vendure s.payment.metadata.zcash

def decide (i : DecideInput) : Decision := decideAs "settled" { i with repriced := false }

/-! ### settlePayment -/

/-- The answer of the handler; an error keeps the payment's state. -/
def settlePayment (order : Order) (payment : Payment) (live : Option ServiceStatus) :
    Except String ℕ :=
  let data := payment.metadata
  if !isZcashPayment payment || data.paymentId = none || data.address = none then
    .error "Not a Zcash payment this plugin issued."
  else if order.cancelled || (readState .vendure data.zcash).needsReview then
    .error "This Zcash payment is flagged for review. Refund or reconcile it by hand."
  else
    let total := live.bind fun l => zecToZat l.totalReceived
    match liveTotal live with
    | none => .error "Cannot reach zcash-payment-service to confirm the payment."
    | some received =>
      let due := data.amountZat.getD 0
      if due ≤ 0 ∨ received < due then
        .error (if due ≤ (total.getD 0 : ℕ) then
            s!"Payment of {zatToZec (total.getD 0 : ℕ)} ZEC received, pending confirmation."
          else s!"Received {zatToZec received} of {zatToZec due} ZEC so far.")
      else .ok received

structure RetryError where
  message : String
  status : ℕ := 503
  deriving DecidableEq, Repr

/-- What happens around one `apply`: the answers of the status call to `apply` and to the
handler, whether the order is cancelled before the handler looks at it and before it is loaded
again, the state the shop moves the payment to once the handler agreed (`none` where it cannot),
the message of an error result, and whether a call to the database, the history or the event
bus fails. -/
structure Env where
  live : Option ServiceStatus := none
  handlerLive : Option ServiceStatus := none
  cancelledMeanwhile : Bool := false
  cancelledAfter : Bool := false
  transition : Option PaymentState := some .settled
  errorResult : String := ""
  fails : Bool := false

/-- The order service asks the handler, and moves the payment when it agrees. -/
def orderServiceSettle (env : Env) (event live : ℕ) (s : Shop) : Except RetryError Shop :=
  let order := { s.order with cancelled := s.order.cancelled || env.cancelledMeanwhile }
  match settlePayment order s.payment env.handlerLive, env.transition with
  | .ok confirmed, some state =>
    .ok { s with
      payment := { s.payment with state }
      order := { order with cancelled := order.cancelled || env.cancelledAfter }
      settlements := s.settlements ++ [⟨event, live, confirmed⟩] }
  | _, _ => .error ⟨s!"could not settle payment: {env.errorResult}", 500⟩

/-! ### apply -/

/-- What `apply` is about to record: the next state, the notes and the events. -/
structure Draft where
  next : ZcashState
  notes : List String := []
  events : List PluginEvent := []

def Draft.note (d : Draft) (text : String) : Draft := { d with notes := d.notes ++ [text] }

def Draft.publish (d : Draft) (event : PluginEvent) : Draft :=
  { d with events := d.events ++ [event] }

def Draft.review (d : Draft) (message : String) : Draft :=
  ({ d with next := { d.next with needsReview := true } }.note s!"Zcash: {message}").publish
    (.review message)

def Draft.hold (d : Draft) (state : ZcashState) (message : String) : Draft :=
  if state.hold = some .auto then d
  else
    ({ d with next := { d.next with hold := some .auto } }.note
      s!"Zcash: ON HOLD, do not fulfill. {message}").publish (.hold true message)

def Draft.release (d : Draft) (message : String) : Draft :=
  ({ d with next := { d.next with hold := none } }.note s!"Zcash: {message}").publish
    (.hold false message)

def Shop.record (s : Shop) (d : Draft) : Shop :=
  { s with
    payment := { s.payment with
      metadata := { s.payment.metadata with zcash := some d.next.store } }
    history := s.history ++ d.notes
    published := s.published ++ d.events }

inductive Body where
  | done
  | ignored (why : String)
  deriving DecidableEq, Repr

def Shop.decideInput (s : Shop) (o : Observation) : DecideInput where
  state := s.state
  totalZat := o.settledZat
  seenZat := some o.totalZat
  stateVersion := o.stateVersion
  dueZat := s.dueZat
  paid := s.payment.state = .settled
  closed := s.order.cancelled || closedPaymentStates.contains s.payment.state ||
    s.payment.refunds.any (· ≠ .failed)
  repriced := false

def Shop.next (s : Shop) (o : Observation) : ZcashState :=
  { s.state with
    stateVersion := o.stateVersion
    receivedZat := toString o.settledZat
    seenZat := some (toString o.totalZat) }

def confirm (live : Option ServiceStatus) : Except RetryError ℕ :=
  match liveTotal live with
  | none => .error { message := "cannot confirm with the service, retry" }
  | some zat => .ok zat

def apply (env : Env) (o : Observation) (s : Shop) : Except RetryError (Body × Shop) :=
  let draft : Draft := { next := s.next o }
  match decide (s.decideInput o) with
  | .stale => .ok (.ignored "stale", s)
  | .review message short =>
    let reviewed := draft.review message
    .ok (.done, s.record (if short then reviewed.hold s.state message else reviewed))
  | .hold message => .ok (.done, s.record (draft.hold s.state message))
  | .release message =>
    match confirm env.live with
    | .error e => .error e
    | .ok live =>
      -- A newer drop may already have happened at the service.
      if live < s.dueZat then .ok (.ignored "superseded", s)
      else .ok (.done, s.record (draft.release message))
  | .note _ | .partialPayment _ => .ok (.done, s.record draft)
  | .pending message =>
    .ok (.done, s.record
      (if s.state.seenZat ≠ some (toString o.totalZat) then draft.note s!"Zcash: {message}"
      else draft))
  | .capture =>
    match confirm env.live with
    | .error e => .error e
    | .ok live =>
      -- A retried delivery may describe funds that were dropped since.
      if live < s.dueZat then .ok (.ignored "superseded", s)
      else
        match orderServiceSettle env o.settledZat live s with
        | .error e => .error e
        | .ok s' =>
          if s'.payment.state ≠ .settled then .error ⟨"could not settle payment", 500⟩
          else
            .ok (.done, s'.record
              (if s'.order.cancelled then
                draft.review (s!"Received {zatToZec o.settledZat} ZEC and settled it while the " ++
                  "order was being cancelled. Refund or reconcile by hand.")
              else draft))

/-- `withTransaction`: a call that throws leaves nothing behind. -/
def deliver (env : Env) (o : Observation) (s : Shop) : Shop :=
  match apply env o s with
  | .ok (_, s') => if env.fails then s else s'
  | .error _ => s

inductive Act where
  | deliver (o : Observation) (env : Env)
  /-- Other parties change the order, the refunds, or close the payment. -/
  | setOrderCancelled (cancelled : Bool)
  | setRefunds (refunds : List RefundState)
  | closePayment (state : {p : PaymentState // p ∈ closedPaymentStates})

def Shop.act (s : Shop) : Act → Shop
  | .deliver o env => Vendure.deliver env o s
  | .setOrderCancelled cancelled => { s with order := { s.order with cancelled } }
  | .setRefunds refunds => { s with payment := { s.payment with refunds } }
  | .closePayment state => { s with payment := { s.payment with state := state.1 } }

def Shop.run (s : Shop) (acts : List Act) : Shop := acts.foldl Shop.act s

end ZcashPayment.Vendure

import ZcashPayment.PhpZcash

/-!
The WooCommerce plugin: checkout, webhook, hooks and the order-received page.

Checkout and webhook hold the lock of the order. An order object is a copy: what is changed on it
is stored when it is saved, and the notes go straight to the database. The lock covers the plugin
only, so the merchant, the payer and the shop may change the order while the service is asked, and
between any two calls.
-/

namespace ZcashPayment.WooCommerce

open Php (NonEmpty nonEmpty? ctypeXdigit liveZat resolvePayUrl)

inductive Status where
  | pending
  | processing
  | onHold
  | completed
  | cancelled
  | refunded
  | failed
  /-- A status that the shop or another plugin registers. -/
  | custom (name : String)
  deriving DecidableEq, Repr

def Status.text : Status → String
  | pending => "pending"
  | processing => "processing"
  | onHold => "on-hold"
  | completed => "completed"
  | cancelled => "cancelled"
  | refunded => "refunded"
  | failed => "failed"
  | custom name => name

def id : String := "zcash_payment"

/-- An order with the metadata of the plugin. -/
structure Order where
  status : Status := .pending
  paymentMethod : String
  total : String
  currency : String
  /-- Stored once, and never empty. -/
  address : Option NonEmpty := none
  paymentId : String := ""
  payUrl : String := ""
  qrText : String := ""
  amountZat : ℕ := 0
  receivedZat : ℕ := 0
  /-- Everything seen so far, mempool included. -/
  seenZat : Option ℕ := none
  stateVersion : ℕ := 0
  priced : String := ""
  needsReview : Bool := false
  autoHold : Bool := false
  preHold : Option Status := none
  deriving DecidableEq

def Order.isPaid (order : Order) : Bool :=
  decide (order.status = .processing ∨ order.status = .completed)

def closedStatuses : List Status := [.cancelled, .failed, .refunded]

def Order.isClosed (order : Order) : Bool := closedStatuses.contains order.status

/-- The total and the currency as they are recorded when the address is issued. -/
def Order.pricedNow (order : Order) : String := order.total ++ " " ++ order.currency

/-- A payment completed, or a hold of the plugin's own released: the settled amount of the event,
the service's answer, the order as it was read again, and the status it got. -/
structure Completion where
  event : ℕ
  live : ℕ
  before : Order
  after : Status
  deriving DecidableEq

/-- The stored order and its notes, and what the webhook completed so far. -/
structure Store where
  order : Order
  notes : List String := []
  completions : List Completion := []
  deriving DecidableEq

def Store.save (s : Store) (order : Order) : Store := { s with order }

def Store.note (s : Store) (text : String) : Store := { s with notes := s.notes ++ [text] }

/-! ### Hooks -/

/-- `woocommerce_order_status_changed` -/
def statusChanged (old new : Status) (order : Order) : Order :=
  let order :=
    if old = .onHold ∧ order.autoHold then { order with autoHold := false, preHold := none }
    else order
  if closedStatuses.contains new ∧ order.address ≠ none then { order with needsReview := true }
  else order

/-- `set_status` and `save`: the hook runs when the status changes. -/
def Order.setStatus (order : Order) (new : Status) : Order :=
  if order.status = new then order else statusChanged order.status new { order with status := new }

/-- `woocommerce_order_refunded` -/
def Order.refunded (order : Order) : Order :=
  if order.address ≠ none then { order with needsReview := true } else order

/-- What the merchant, the payer and the shop do to an order. -/
inductive Change where
  | setStatus (new : Status)
  | refund
  | setPaymentMethod (method : String)
  | reprice (total currency : String)
  /-- The merchant has reconciled the funds. -/
  | clearReview
  deriving DecidableEq, Repr

def Order.change (order : Order) : Change → Order
  | .setStatus new => order.setStatus new
  | .refund => order.refunded
  | .setPaymentMethod method => { order with paymentMethod := method }
  | .reprice total currency => { order with total, currency }
  | .clearReview => { order with needsReview := false }

def Store.change (s : Store) (c : Change) : Store := s.save (s.order.change c)

def Store.changes (s : Store) (cs : List Change) : Store := cs.foldl Store.change s

/-! ### Webhook -/

/-- What happens around one delivery: the answer of the service, what others do to the order
until it arrives, whether WooCommerce carries out a change of the status, and whether the order
has to be processed once it is paid. -/
structure Env where
  live : Option Php.ServiceStatus := none
  meanwhile : List Change := []
  moves : Bool := true
  needsProcessing : Bool := true

inductive Response where
  | ok
  | ignored (why : String)
  | error (status : ℕ) (why : String)
  deriving DecidableEq, Repr

def serviceStatus (env : Env) (order : Order) : Option Php.ServiceStatus :=
  if ctypeXdigit order.paymentId then env.live else none

/-- Why the event is set aside. -/
def reviewNote (order : Order) (totalZat : ℕ) : Option String :=
  let zec := zatToZec totalZat
  if order.status = .onHold ∧ !order.autoHold then
    some (s!"Zcash total for this order is now {zec} ZEC. The order is on hold, so it was not " ++
      "completed automatically.")
  else if order.needsReview then
    some (s!"Zcash total for this order is now {zec} ZEC. A payment for this order is under " ++
      "manual review, so this was not applied automatically.")
  else if order.paymentMethod ≠ id then
    some (s!"Received {zec} ZEC at this order's abandoned Zcash address, but the order now uses " ++
      "another payment method. Not applied; refund or reconcile by hand.")
  else if !order.isPaid ∧ order.priced ≠ order.pricedNow then
    some (s!"Received {zec} ZEC, but the order total changed after the Zcash amount was set. " ++
      "Not completed automatically; reconcile by hand.")
  else none

/-- Puts a paid order on hold and remembers its status. `none` is a failed change of status. -/
def autoHold (env : Env) (order : Order) (message : String) (s : Store) :
    Option Order × Store :=
  if order.status = .onHold then (some order, s.note message)
  else
    let marked := { order with autoHold := true, preHold := some order.status }
    if env.moves then
      let held := marked.setStatus .onHold
      (some held, (s.save held).note message)
    else
      -- No hold markers on an order that is not held.
      (none, s.save { marked with autoHold := false, preHold := none })

/-- The version is recorded last. -/
def Store.record (s : Store) (o : Php.Observation) (order : Order) : Store :=
  s.save { order with
    receivedZat := o.settledZat
    seenZat := some o.totalZat
    stateVersion := o.stateVersion }

/-- The order as it is read again can still be completed. -/
def Order.ready (order : Order) : Bool :=
  !order.isPaid && decide (order.status = .pending ∨ order.status = .onHold) &&
    decide (order.paymentMethod = id) && !order.needsReview &&
    decide (order.priced = order.pricedNow) &&
    !(decide (order.status = .onHold) && !order.autoHold)

/-- `payment_complete` -/
def Order.paymentComplete (order : Order) (needsProcessing : Bool) : Order :=
  if [Status.onHold, .pending, .failed, .cancelled].contains order.status then
    order.setStatus (if needsProcessing then .processing else .completed)
  else order

/-- The service has confirmed the funds of an event that covers what is due. -/
def complete (env : Env) (o : Php.Observation) (live : ℕ) (s : Store) : Response × Store :=
  if !s.order.ready then (.error 503 "order changed, retry", s)
  else
    let zec := zatToZec o.settledZat
    let order := { s.order with receivedZat := o.settledZat }
    let s' := s.save order
    match decide (order.status = .onHold), order.preHold with
    | true, some preHold =>
      -- An order that was paid before gets its earlier status back.
      if env.moves then
        let restored := order.setStatus preHold
        let s' := (s'.save restored).note s!"Zcash funds recovered to {zec} ZEC. Hold released."
        (.ok, { s'.record o restored with
          completions := s.completions ++ [⟨o.settledZat, live, s.order, restored.status⟩] })
      else (.error 500 "could not release hold", s')
    | _, _ =>
      if env.moves then
        let paid := order.paymentComplete env.needsProcessing
        let s' := (s'.save paid).note s!"Received {zec} ZEC. Payment complete."
        (.ok, { s'.record o paid with
          completions := s.completions ++ [⟨o.settledZat, live, s.order, paid.status⟩] })
      else (.error 500 "could not complete payment", s')

def supersededNote (total live : ℕ) : String :=
  s!"A payment event reported {zatToZec total} ZEC, but the service now sees {zatToZec live} " ++
    "ZEC. Not completed."

def couldNotHold : Response := .error 500 "could not hold order, retry"

/-- Applies one observation to the order. -/
def apply (env : Env) (o : Php.Observation) (s : Store) : Response × Store :=
  let order := s.order
  if order.address.map (·.1) ≠ some o.address then (.ignored "unknown address", s)
  -- Deliveries can arrive out of order.
  else if o.stateVersion ≤ order.stateVersion then (.ignored "stale", s)
  else
    let total := o.settledZat
    let due := order.amountZat
    let zec := zatToZec total
    let short := decide (0 < due ∧ total < due)
    match reviewNote order total with
    | some note =>
      let s := s.note note
      let order := { order with needsReview := true }
      if order.isPaid && short && decide (order.paymentMethod = id) then
        match autoHold env order (s!"Zcash funds for this paid order dropped to {zec} of " ++
          s!"{zatToZec due} ZEC. Order put on hold; check before fulfilling.") s with
        | (none, s) => (couldNotHold, s)
        | (some held, s) => (.ok, s.record o held)
      else (.ok, s.record o order)
    | none =>
      if order.isPaid then
        if short then
          match autoHold env order (s!"Zcash funds for this paid order dropped to {zec} of " ++
            s!"{zatToZec due} ZEC (a transaction was dropped or reorganized out). Order put on " ++
            "hold; check before fulfilling.") s with
          | (none, s) => (couldNotHold, s)
          | (some held, s) => (.ok, s.record o held)
        else (.ok, (s.note s!"Zcash total for this order is now {zec} ZEC.").record o order)
      else if order.isClosed then
        (.ok, (s.note (s!"Received {zec} ZEC for this order after it was {order.status.text}. " ++
          "Not completed automatically; review stock and refund or reinstate the order by hand."
          )).record o { order with needsReview := true })
      else if 0 < due ∧ due ≤ total then
        let live := liveZat (serviceStatus env order)
        let s := s.changes env.meanwhile
        match live with
        | none => (.error 503 "cannot confirm with the service, retry", s)
        | some live =>
          if live < due then
            (.ignored "superseded", s.note (supersededNote total live))
          else complete env o live s
      else
        let seen := o.totalZat
        let s :=
          if some seen = order.seenZat then s
          else if 0 < due ∧ due ≤ seen then
            s.note (s!"Payment of {zatToZec seen} ZEC received, pending confirmation. The order " ++
              "completes once it is confirmed.")
          else s.note s!"Received {zatToZec seen} of {zatToZec due} ZEC so far."
        (.ok, s.record o order)

def deliver (env : Env) (o : Php.Observation) (s : Store) : Store := (apply env o s).2

/-! ### Checkout -/

/-- The answer to a `POST /payment-session` with status 200. -/
structure Session where
  address : String
  qrText : String
  paymentId : String
  payUrl : String
  deriving DecidableEq, Repr

/-- What happens around one checkout: what the order total is in zatoshis, the answer of the
service, what others do to the order until it arrives, whether WooCommerce carries out the change
of the status, and the two links. -/
structure CheckoutEnv where
  amountZat : Option ℕ
  session : Option Session
  meanwhile : List Change := []
  moves : Bool := true
  payBaseUrl : String := ""
  returnUrl : String := ""

inductive Checkout where
  | redirect (url : String)
  | failure (message : String)
  deriving DecidableEq, Repr

def unavailable : Checkout :=
  .failure "Zcash payments are temporarily unavailable. Please try again."

/-- The order was not closed, paid, switched to another gateway or repriced meanwhile. -/
def Order.unchanged (order : Order) (wasFailed : Bool) (priced : String) : Bool :=
  let closed := [Status.cancelled, .refunded, .onHold] ++ if wasFailed then [] else [.failed]
  !order.isPaid && !closed.contains order.status && decide (order.paymentMethod = id) &&
    decide (order.pricedNow = priced)

/-- Creates the payment session of the order, or uses the one it has. -/
def startSession (env : CheckoutEnv) (s : Store) : Checkout × Store :=
  let order := s.order
  let priced := order.pricedNow
  let wasFailed := decide (order.status = .failed)
  match order.address with
  | some _ =>
    if order.needsReview || order.isClosed then
      (.failure "A payment for this order is under review. Please contact the store.", s)
    else if order.priced = priced then
      (.redirect ((resolvePayUrl order.payUrl env.payBaseUrl).getD env.returnUrl), s)
    else
      (.failure "This order changed after payment started. Please contact the store.",
        s.note ("The order total changed after a Zcash address was issued. Reconcile it by " ++
          "hand."))
  | none =>
    match env.amountZat with
    | none => (.failure "This order total cannot be converted to ZEC.", s)
    | some amountZat =>
      let s := s.changes env.meanwhile
      match env.session with
      | none => (unavailable, s)
      | some session =>
        match nonEmpty? session.address, nonEmpty? session.qrText with
        | some address, some qrText =>
          if !ctypeXdigit session.paymentId then (unavailable, s)
          else if !s.order.unchanged wasFailed priced then
            (.failure ("This order changed while payment was starting. Please try again or " ++
              "contact the store."), s)
          else
            let order := { s.order with
              address := some address
              qrText := qrText.1
              amountZat
              priced
              receivedZat := 0
              stateVersion := 0
              paymentId := if session.paymentId = "0" then s.order.paymentId else session.paymentId
              payUrl := if (nonEmpty? session.payUrl).isSome then session.payUrl
                else s.order.payUrl }
            let s := if env.moves then
                (s.save (order.setStatus .pending)).note
                  s!"Awaiting {zatToZec amountZat} ZEC at {address.1}."
              else s.save order
            (.redirect ((resolvePayUrl session.payUrl env.payBaseUrl).getD env.returnUrl), s)
        | _, _ => (unavailable, s)

/-! ### The order-received page -/

inductive Page where
  | blank
  | contactStore
  | unknown
  | seen
  | received
  /-- Asks for what remains, at an address, with a wallet link and a link to the QR code. -/
  | ask (remaining : ℤ) (more : Bool) (address : NonEmpty) (wallet link : Option String)
  deriving DecidableEq

/-- `live` is the answer of the status route, asked for while the page is made. -/
def thankyouPage (live : Option Php.ServiceStatus) (payBaseUrl : String) (order : Order) : Page :=
  if order.isPaid || order.isClosed then .blank
  else
    match order.address with
    | none => .blank
    | some address =>
      -- Payments sent now would only be set aside by the webhook.
      if order.needsReview || (decide (order.status = .onHold) && !order.autoHold) ||
          decide (order.priced ≠ order.pricedNow) then .contactStore
      else
        match if ctypeXdigit order.paymentId then live else none with
        | none => .unknown
        | some live =>
          if ["paid", "received"].contains live.status then .seen
          else
            let due : ℤ := order.amountZat
            let received : ℤ := (Php.zecToZat live.totalReceived).getD order.receivedZat
            let qrText := if (nonEmpty? live.qrText).isSome then live.qrText else order.qrText
            let remaining := due - received
            if 0 < due ∧ remaining ≤ 0 then .received
            else .ask remaining (0 < received) address (if qrText = "" then none else some qrText)
              (resolvePayUrl order.payUrl payBaseUrl)

/-! ### Runs -/

inductive Act where
  | deliver (o : Php.Observation) (env : Env)
  | checkout (env : CheckoutEnv)
  | change (c : Change)

def Store.act (s : Store) : Act → Store
  | .deliver o env => WooCommerce.deliver env o s
  | .checkout env => (startSession env s).2
  | .change c => s.change c

def Store.run (s : Store) (acts : List Act) : Store := acts.foldl Store.act s

/-- An order as the shop places it. -/
def placed (status : Status) (paymentMethod total currency : String) : Store where
  order := { status, paymentMethod, total, currency }

end ZcashPayment.WooCommerce

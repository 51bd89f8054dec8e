import ZcashPayment.PhpZcash

/-!
The PrestaShop module: checkout, webhook and hooks.

The module keeps a row of its own for each order and writes it at once. Every read and write of the
row may fail; the webhook then answers 503, and what was written before stays. A change of the
order's state may fail too, before or after PrestaShop has saved it. The lock keeps the merchant
from changing the state while a payment is applied; here anybody may change anything while the
service is asked.
-/

namespace ZcashPayment.PrestaShop

open Php (NonEmpty nonEmpty? ctypeXdigit liveZat resolvePayUrl)

/-- The order states, as the module and PrestaShop install them. -/
structure States where
  awaiting : ℕ
  hold : ℕ
  canceled : ℕ
  refund : ℕ
  error : ℕ
  payment : ℕ
  /-- The `paid` flag of a state. -/
  paid : ℕ → Bool
  awaiting_pos : 0 < awaiting
  hold_awaiting : hold ≠ awaiting
  hold_closed : hold ∉ [canceled, refund, error]
  awaiting_closed : awaiting ∉ [canceled, refund, error]
  awaiting_paid : paid awaiting = false
  closed_paid : ∀ state ∈ [canceled, refund, error], paid state = false
  payment_paid : paid payment = true
  payment_pos : 0 < payment
  payment_hold : payment ≠ hold

variable (st : States)

def States.isOpen (state : ℕ) : Bool := decide (0 < state ∧ st.awaiting = state)

def States.isClosed (state : ℕ) : Bool := [st.canceled, st.refund, st.error].contains state

def States.isPaid (state : ℕ) : Bool :=
  if state = 0 ∨ st.hold = state then false else st.paid state

/-- PrestaShop's order: its state, the module it is paid through, and its total and currency as
`priced` writes them. -/
structure Order where
  currentState : ℕ
  module : String
  priced : String
  deriving DecidableEq, Repr

/-- The module's record of an order. -/
structure Row where
  /-- Stored once, and never empty. -/
  address : Option NonEmpty := none
  paymentId : String := ""
  qrText : String := ""
  payUrl : String := ""
  amountZat : ℕ := 0
  receivedZat : ℕ := 0
  seenZat : ℕ := 0
  stateVersion : ℕ := 0
  priced : String := ""
  needsReview : Bool := false
  autoHold : Bool := false
  preHoldState : ℕ := 0
  deriving DecidableEq

/-- A payment completed, or a hold of the module's own released: the settled amount of the event,
the service's answer, the order and its row as they were read again, and the state it got. -/
structure Completion where
  event : ℕ
  live : ℕ
  order : Order
  row : Row
  after : ℕ
  deriving DecidableEq

structure Store where
  order : Order
  row : Row := {}
  notes : List String := []
  completions : List Completion := []
  deriving DecidableEq

def Store.set (s : Store) (row : Row) : Store := { s with row }

def Store.note (s : Store) (text : String) : Store := { s with notes := s.notes ++ [text] }

def Order.isOurs (order : Order) : Bool := decide (order.module = "zcashpayment")

/-! ### Hooks -/

def afterStatusChange (new : ℕ) (row : Row) : Row :=
  if row.address = none then row
  else
    let ended := row.autoHold && decide (st.hold ≠ new)
    { row with
      autoHold := if ended then false else row.autoHold
      preHoldState := if ended then 0 else row.preHoldState
      needsReview := row.needsReview || st.isClosed new }

/-- PrestaShop saves the state and runs the hook, which writes the row when `hook` says so. -/
def Store.changeState (s : Store) (new : ℕ) (hook : Bool) : Store :=
  { s with
    order := { s.order with currentState := new }
    row := if hook && s.order.isOurs then afterStatusChange st new s.row else s.row }

/-- `hookActionOrderSlipAdd` -/
def Store.slip (s : Store) (written : Bool) : Store :=
  if written && s.order.isOurs && s.row.address.isSome then
    s.set { s.row with needsReview := true }
  else s

/-- What the merchant, the payer and the shop do to an order, and whether the hook can write. -/
inductive Change where
  | setState (new : ℕ) (hook : Bool)
  | slip (written : Bool)
  | setModule (module : String)
  | reprice (priced : String)
  /-- The merchant has reconciled the funds. -/
  | clearReview
  deriving DecidableEq, Repr

def Store.change (s : Store) : Change → Store
  | .setState new hook => s.changeState st new hook
  | .slip written => s.slip written
  | .setModule module => { s with order := { s.order with module } }
  | .reprice priced => { s with order := { s.order with priced } }
  | .clearReview => s.set { s.row with needsReview := false }

def Store.changes (s : Store) (cs : List Change) : Store := cs.foldl (Store.change st) s

/-! ### Webhook -/

/-- The reads and writes of the row in one delivery, and the write of the transaction id. -/
inductive Call where
  | row
  | flag
  | mark
  | unmark
  | again
  | credit
  | transaction
  | record
  deriving DecidableEq, Repr

/-- A change of the state by the module: whether PrestaShop saves it, whether the hook writes the
row, and whether something throws after that. -/
structure Move where
  saved : Bool := true
  hook : Bool := true
  throws : Bool := false

/-- What happens around one delivery: the answer of the service, what others do until it arrives,
the calls that fail, and what becomes of a change of the state. -/
structure Env where
  live : Option Php.ServiceStatus := none
  meanwhile : List Change := []
  fails : Call → Bool := fun _ => false
  move : Move := {}

inductive Response where
  | ok
  | ignored (why : String)
  | error (status : ℕ) (why : String)
  deriving DecidableEq, Repr

def databaseError : Response := .error 503 "database error, retry"

def couldNotHold : Response := .error 500 "could not hold order, retry"

/-- Moves the order to a state and says whether it got there. -/
def setState (move : Move) (new : ℕ) (s : Store) : Bool × Store :=
  if s.order.currentState = new then (true, s)
  else if move.saved then (!move.throws, s.changeState st new move.hook)
  else (false, s)

def serviceStatus (env : Env) (row : Row) : Option Php.ServiceStatus :=
  if ctypeXdigit row.paymentId then env.live else none

/-- Why the event is set aside. -/
def reviewNote (order : Order) (row : Row) (totalZat : ℕ) : Option String :=
  let zec := zatToZec totalZat
  if st.hold = order.currentState ∧ !row.autoHold then
    some (s!"Zcash total for this order is now {zec} ZEC. The order is on hold, so it was not " ++
      "completed automatically.")
  else if row.needsReview then
    some (s!"Zcash total for this order is now {zec} ZEC. A payment for this order is under " ++
      "manual review, so this was not applied automatically.")
  else if !order.isOurs then
    some (s!"Received {zec} ZEC at this order's abandoned Zcash address, but the order now uses " ++
      "another payment method. Not applied; refund or reconcile by hand.")
  else if !st.isPaid order.currentState ∧ row.priced ≠ order.priced then
    some (s!"Received {zec} ZEC, but the order total changed after the Zcash amount was set. " ++
      "Not completed automatically; reconcile by hand.")
  else none

/-- Puts a paid order on hold and remembers its state. The answer is that of a failure. -/
def autoHold (env : Env) (message : String) (s : Store) : Option Response × Store :=
  let s := s.note message
  if st.hold = s.order.currentState then (none, s)
  else if env.fails .mark then (some databaseError, s)
  else
    let s := s.set { s.row with autoHold := true, preHoldState := s.order.currentState }
    match setState st env.move st.hold s with
    | (true, s) => (none, s)
    | (false, s) =>
      -- The hold may be saved all the same.
      if st.hold = s.order.currentState then (none, s)
      else if env.fails .unmark then (some databaseError, s)
      else (some couldNotHold, s.set { s.row with autoHold := false, preHoldState := 0 })

/-- The version is recorded last. -/
def Store.record (env : Env) (o : Php.Observation) (s : Store) : Response × Store :=
  if env.fails .record then (databaseError, s)
  else (.ok, s.set { s.row with
    receivedZat := o.settledZat
    seenZat := o.totalZat
    stateVersion := o.stateVersion })

/-- The module's own hold. -/
def Store.ownHold (s : Store) : Bool := decide (st.hold = s.order.currentState) && s.row.autoHold

/-- The order as it is read again can still be completed. -/
def Store.ready (s : Store) : Bool :=
  s.order.isOurs && !s.row.needsReview && decide (s.row.priced = s.order.priced) &&
    (st.isOpen s.order.currentState || s.ownHold st)

/-- The service has confirmed the funds of an event that covers what is due. -/
def complete (env : Env) (o : Php.Observation) (live : ℕ) (s : Store) : Response × Store :=
  if env.fails .again then (databaseError, s)
  else if !s.ready st then (.error 503 "order changed, retry", s)
  else if env.fails .credit then (databaseError, s)
  else
    let zec := zatToZec o.settledZat
    let auto := s.ownHold st
    let target := if auto && decide (0 < s.row.preHoldState) then s.row.preHoldState else st.payment
    let completion : Completion := ⟨o.settledZat, live, s.order, s.row, target⟩
    let s := s.set { s.row with receivedZat := o.settledZat }
    match setState st env.move target s with
    | (false, s) =>
      (.error 500 "could not complete payment",
        if s.order.currentState = target then
          { s with completions := s.completions ++ [completion] }
        else s)
    | (true, s) =>
      let s := { s with completions := s.completions ++ [completion] }
      if !auto then
        if env.fails .transaction then (.error 500 "internal error, retry", s)
        else (s.note s!"Received {zec} ZEC. Payment complete.").record env o
      else (s.note s!"Zcash funds recovered to {zec} ZEC. Hold released.").record env o

def supersededNote (total live : ℕ) : String :=
  s!"A payment event reported {zatToZec total} ZEC, but the service now sees {zatToZec live} " ++
    "ZEC. Not completed."

/-- Puts the order on hold, and then records the event. -/
def holdAndRecord (env : Env) (o : Php.Observation) (message : String) (s : Store) :
    Response × Store :=
  match autoHold st env message s with
  | (some failure, s) => (failure, s)
  | (none, s) => s.record env o

/-- Applies one observation to the order. -/
def apply (env : Env) (o : Php.Observation) (s : Store) : Response × Store :=
  if env.fails .row then (databaseError, s)
  else if s.row.address.map (·.1) ≠ some o.address then (.ignored "unknown address", s)
  -- Deliveries can arrive out of order.
  else if o.stateVersion ≤ s.row.stateVersion then (.ignored "stale", s)
  else
    let state := s.order.currentState
    let total := o.settledZat
    let due := s.row.amountZat
    let zec := zatToZec total
    let paid := st.isPaid state
    let short := decide (0 < due ∧ total < due)
    match reviewNote st s.order s.row total with
    | some note =>
      let s := s.note note
      if env.fails .flag then (databaseError, s)
      else
        let s := s.set { s.row with needsReview := true }
        if paid && short && s.order.isOurs then
          holdAndRecord st env o (s!"Zcash funds for this paid order dropped to {zec} of " ++
            s!"{zatToZec due} ZEC. Order put on hold; check before shipping.") s
        else s.record env o
    | none =>
      if paid then
        if short then
          holdAndRecord st env o (s!"Zcash funds for this paid order dropped to {zec} of " ++
            s!"{zatToZec due} ZEC (a transaction was dropped or reorganized out). Order put on " ++
            "hold; check before shipping.") s
        else (s.note s!"Zcash total for this order is now {zec} ZEC.").record env o
      else if st.isClosed state then
        let s := s.note (s!"Received {zec} ZEC for this order after it was closed. Not " ++
          "completed automatically; refund or reinstate the order by hand.")
        if env.fails .flag then (databaseError, s)
        else (s.set { s.row with needsReview := true }).record env o
      else if 0 < due ∧ due ≤ total then
        let live := liveZat (serviceStatus env s.row)
        let s := s.changes st env.meanwhile
        match live with
        | none => (.error 503 "cannot confirm with the service, retry", s)
        | some live =>
          if live < due then (.ignored "superseded", s.note (supersededNote total live))
          else complete st env o live s
      else
        let seen := o.totalZat
        let s :=
          if seen = s.row.seenZat then s
          else if 0 < due ∧ due ≤ seen then
            s.note (s!"Payment of {zatToZec seen} ZEC received, pending confirmation. The order " ++
              "is marked paid once it is confirmed.")
          else s.note s!"Received {zatToZec seen} of {zatToZec due} ZEC so far."
        s.record env o

def deliver (env : Env) (o : Php.Observation) (s : Store) : Store := (apply st env o s).2

/-! ### Checkout -/

/-- The answer to a `POST /payment-session` with status 200. -/
structure Session where
  address : String
  qrText : String
  paymentId : String
  payUrl : String
  deriving DecidableEq, Repr

/-- What happens around one checkout: what the order total is in zatoshis, the answer of the
service, what others do until it arrives, whether reading and writing the row fails, what becomes
of a change of the state, and the two links. -/
structure CheckoutEnv where
  amountZat : Option ℕ
  session : Option Session
  meanwhile : List Change := []
  readFails : Bool := false
  writeFails : Bool := false
  move : Move := {}
  payBaseUrl : String := ""
  confirmationUrl : String := ""

inductive Checkout where
  | url (url : String)
  | error (message : String)
  deriving DecidableEq, Repr

def unavailable : Checkout :=
  .error "Zcash payments are temporarily unavailable. Please try again."

/-- Creates the payment session of the order, or uses the one it has. -/
def startSession (env : CheckoutEnv) (s : Store) : Checkout × Store :=
  if !s.order.isOurs then (.error "Order not found.", s)
  else if env.readFails then (unavailable, s)
  else
    let priced := s.order.priced
    match s.row.address with
    | some _ =>
      if s.row.needsReview || st.isClosed s.order.currentState then
        (.error "A payment for this order is under review. Please contact the store.", s)
      else if s.row.priced = priced then
        (.url ((resolvePayUrl s.row.payUrl env.payBaseUrl).getD env.confirmationUrl), s)
      else
        (.error "This order changed after payment started. Please contact the store.",
          s.note ("The order total changed after a Zcash address was issued. Reconcile it by " ++
            "hand."))
    | none =>
      if !st.isOpen s.order.currentState then
        (.error "This order can no longer be paid. Please contact the store.", s)
      else
        match env.amountZat with
        | none => (.error "This order total cannot be converted to ZEC.", s)
        | some amountZat =>
          let s := s.changes st env.meanwhile
          match env.session with
          | none => (unavailable, s)
          | some session =>
            match nonEmpty? session.address, nonEmpty? session.qrText with
            | some address, some qrText =>
              if !ctypeXdigit session.paymentId then (unavailable, s)
              else if !s.order.isOurs || !st.isOpen s.order.currentState ||
                  decide (s.order.priced ≠ priced) then
                (.error ("This order changed while payment was starting. Please try again or " ++
                  "contact the store."), s)
              else if env.writeFails then (unavailable, s)
              else
                (.url ((resolvePayUrl session.payUrl env.payBaseUrl).getD env.confirmationUrl),
                  (s.set { s.row with
                    address := some address
                    qrText := qrText.1
                    paymentId := session.paymentId
                    payUrl := session.payUrl
                    amountZat
                    receivedZat := 0
                    seenZat := 0
                    priced }).note s!"Awaiting {zatToZec amountZat} ZEC at {address.1}")
            | _, _ => (unavailable, s)

/-- The rest of `postProcess`: an order that got no address fails, if it is still open. -/
def validation (env : CheckoutEnv) (s : Store) : Checkout × Store :=
  match startSession st env s with
  | (.url url, s) => (.url url, s)
  | (.error message, s) =>
    (.error message,
      if s.order.isOurs && st.isOpen s.order.currentState && !env.readFails &&
          s.row.address.isNone then
        (setState st env.move st.error s).2
      else s)

/-! ### Runs -/

inductive Act where
  | deliver (o : Php.Observation) (env : Env)
  | checkout (env : CheckoutEnv)
  | change (c : Change)

def Store.act (s : Store) : Act → Store
  | .deliver o env => PrestaShop.deliver st env o s
  | .checkout env => (validation st env s).2
  | .change c => s.change st c

def Store.run (s : Store) (acts : List Act) : Store := acts.foldl (Store.act st) s

/-- An order as PrestaShop places it. -/
def placed (currentState : ℕ) (module priced : String) : Store where
  order := { currentState, module, priced }

end ZcashPayment.PrestaShop

import ZcashPayment.PluginState
import ZcashPayment.Program

/-!
The webhook of the Medusa plugin.

`apply` runs under a lock but in no transaction. It updates the order, emits an event, runs the
capture workflow and updates the session, one after the other; it may fail before or right after
each of these, and what was done until then stays.
-/

namespace ZcashPayment.Medusa

structure Payment where
  captured : Bool := false
  canceled : Bool := false
  refunds : ℕ := 0
  deriving DecidableEq, Repr

/-- A payment session: the data the provider wrote when it issued the address, the amount and
currency the session has now as `priced` writes them, and the plugin's state. -/
structure Session where
  address : String
  paymentId : String
  amountZat : ℤ
  priced : String
  price : String
  canceled : Bool := false
  payment : Option Payment := none
  zcash : Option RawZcash := none
  deriving DecidableEq, Repr

/-- An order with the two metadata keys of the plugin. A value that is no string is `none`. -/
structure Order where
  canceled : Bool := false
  zcashPaymentHold : Option String := none
  zcashPaymentReview : Option String := none
  deriving DecidableEq, Repr

/-- `zcash_payment.hold_changed` -/
structure HoldEvent where
  held : Bool
  message : String
  deriving DecidableEq, Repr

/-- The session, its order, the events emitted, and how often a capture took effect. -/
structure Store where
  session : Session
  order : Option Order
  events : List HoldEvent := []
  captures : ℕ := 0
  deriving DecidableEq, Repr

/-- A session as the provider issues it, its cart placed as an order or not. -/
def issued (address paymentId : String) (amountZat : ℤ) (priced : String) (placed : Bool) :
    Store where
  session := { address, paymentId, amountZat, priced, price := priced }
  order := if placed then some {} else none

def Store.state (s : Store) : ZcashState := readState .medusa s.session.zcash

def Store.dueZat (s : Store) : ℤ := s.session.amountZat

def Store.captured (s : Store) : Bool := s.session.payment.any (·.captured)

/-- The hold message of the order. -/
def Store.hold (s : Store) : Option String := s.order.bind (·.zcashPaymentHold)

def decide (i : DecideInput) : Decision := decideAs "captured" i

/-! ### What an attempt does, and where it can fail -/

inductive Effect where
  | reviewMetadata
  | holdMetadata
  | emit
  | workflow
  | session
  deriving DecidableEq, Repr

inductive Fault where
  /-- The call fails and does nothing. -/
  | before
  /-- The call takes effect, and then the attempt fails. -/
  | after
  deriving DecidableEq, Repr

/-- How far the capture workflow gets: the cart is an order, and the payment is captured. -/
structure WorkflowRun where
  completes : Bool := true
  captures : Bool := true
  deriving DecidableEq, Repr

/-- The answer of the status call, the calls that fail, and what the workflow does. -/
structure Env where
  live : Option ServiceStatus := none
  faults : Effect → Option Fault := fun _ => none
  workflow : WorkflowRun := {}

structure RetryError where
  message : String
  status : ℕ := 503
  deriving DecidableEq, Repr

inductive Body where
  | done
  | ignored (why : String)
  deriving DecidableEq, Repr

/-- The route from the store to an answer or an error. -/
abbrev Route := Prog Store RetryError

def callFailed : RetryError := ⟨"call failed", 500⟩

def perform (env : Env) (e : Effect) (f : Store → Store) : Route Unit := fun s =>
  match env.faults e with
  | none => (.ok (), f s)
  | some .before => (.error callFailed, s)
  | some .after => (.error callFailed, f s)

def Store.setHold (s : Store) (message : Option String) : Store :=
  { s with order := s.order.map fun o => { o with zcashPaymentHold := message } }

def Store.setReview (s : Store) (message : String) : Store :=
  { s with order := s.order.map fun o => { o with zcashPaymentReview := some message } }

def Store.emit (s : Store) (event : HoldEvent) : Store := { s with events := s.events ++ [event] }

def Store.record (s : Store) (next : ZcashState) : Store :=
  { s with session := { s.session with zcash := some next.store } }

/-- The workflow completes the cart if it is no order yet, and captures. -/
def Store.process (s : Store) (run : WorkflowRun) : Store :=
  let order := if run.completes then some (s.order.getD {}) else s.order
  if run.captures && order.isSome then
    { s with
      session := { s.session with
        payment := some { s.session.payment.getD {} with captured := true } }
      order
      captures := s.captures + 1 }
  else { s with order }

/-- Nothing is updated when there is no order. -/
def setOrderMetadata (env : Env) (e : Effect) (order : Option Order) (f : Store → Store) :
    Route Unit :=
  if order.isSome then perform env e f else pure ()

def liveTotalZat (env : Env) : Route ℕ :=
  match liveTotal env.live with
  | none => Prog.stop { message := "cannot confirm with the service, retry" }
  | some zat => pure zat

/-! ### apply -/

def Store.closed (s : Store) : Bool :=
  s.order.any (·.canceled) || s.session.payment.any (·.canceled) ||
    s.session.payment.any (0 < ·.refunds) || s.session.canceled

def Store.repriced (s : Store) : Bool := s.session.priced ≠ s.session.price

def Store.decideInput (s : Store) (o : Observation) : DecideInput where
  state := s.state
  totalZat := o.settledZat
  seenZat := some o.totalZat
  stateVersion := o.stateVersion
  dueZat := s.dueZat
  paid := s.captured
  closed := s.closed
  repriced := s.repriced

def Store.next (s : Store) (o : Observation) : ZcashState :=
  { s.state with stateVersion := o.stateVersion, receivedZat := toString o.settledZat }

/-- The hold metadata is set or removed, and then the change is announced. -/
def updateHold (env : Env) (order : Option Order) (held : Option String) (message : String) :
    Route Unit := do
  setOrderMetadata env .holdMetadata order (·.setHold held)
  perform env .emit (·.emit ⟨held.isSome, message⟩)

/-- `hold(message)`: places the hold, unless it is placed or the merchant holds the order. -/
def hold (env : Env) (s : Store) (next : ZcashState) (message : String) : Route ZcashState :=
  if s.state.hold = some .auto then pure next
  else if s.hold.isSome then pure next
  else do
    updateHold env s.order (some message) message
    pure { next with hold := some .auto, holdMessage := some message }

def updateSession (env : Env) (next : ZcashState) : Route Body := do
  perform env .session (·.record next)
  pure .done

/-- The rest of the capture, once the service sees the funds. -/
def capture (env : Env) (o : Observation) (next : ZcashState) : Route Body := do
  -- The status request took time: a cancellation made meanwhile wins.
  let s ← Prog.get
  if s.captured || s.closed || s.repriced || s.state.needsReview then
    Prog.stop { message := "payment changed, retry" }
  else
    perform env .workflow (·.process env.workflow)
    let s ← Prog.get
    if !s.captured then Prog.stop ⟨"could not capture payment", 500⟩
    else if s.order.any (·.canceled) then
      setOrderMetadata env .reviewMetadata s.order
        (·.setReview (s!"Received {zatToZec o.settledZat} ZEC and captured it while the order " ++
          "was being canceled. Refund or reconcile by hand."))
      updateSession env { next with needsReview := true }
    else updateSession env next

def apply (env : Env) (o : Observation) : Route Body := do
  let s ← Prog.get
  if s.session.address ≠ o.address then pure (.ignored "unknown address")
  else
    let next := s.next o
    match decide (s.decideInput o) with
    | .stale => pure (.ignored "stale")
    | .review message short =>
      setOrderMetadata env .reviewMetadata s.order (·.setReview message)
      let next := { next with needsReview := true }
      let next ← if short then hold env s next message else pure next
      updateSession env next
    | .hold message =>
      let next ← hold env s next message
      updateSession env next
    | .release message =>
      let live ← liveTotalZat env
      if live < s.dueZat then pure (.ignored "superseded")
      else
        -- Only the hold the plugin wrote is cleared.
        if s.state.holdMessage.isSome ∧ s.hold = s.state.holdMessage then
          updateHold env s.order none message
        updateSession env { next with hold := none, holdMessage := none }
    | .note _ | .partialPayment _ | .pending _ => updateSession env next
    | .capture =>
      let live ← liveTotalZat env
      if live < s.dueZat then pure (.ignored "superseded")
      else
        capture env o next

/-- One attempt to deliver an event. -/
structure Attempt where
  observation : Observation
  env : Env

def Store.attempt (s : Store) (a : Attempt) : Except RetryError Body × Store :=
  apply a.env a.observation s

def Store.run (s : Store) (as : List Attempt) : Store := as.foldl (fun s a => (s.attempt a).2) s

end ZcashPayment.Medusa

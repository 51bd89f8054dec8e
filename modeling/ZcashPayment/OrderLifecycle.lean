import Mathlib.Data.List.Infix
import Mathlib.Logic.Relation

/-!
What a shop plugin may do to an order, whatever the shop.

The plugins for WooCommerce, Easy Digital Downloads and PrestaShop keep one address per order and
follow the same rules over different statuses and different storage. Here an order is what the
rules look at, and a step is all that an event of the service, a checkout or anybody else may
change of it. What holds after every run of such steps is proved once; each plugin's own module
shows that the plugin takes no other step.
-/

namespace ZcashPayment.Lifecycle

variable {σ : Type}

/-- How the rules read the statuses of a shop. -/
structure Statuses (σ : Type) where
  hold : σ
  Paid : σ → Prop
  Closed : σ → Prop
  /-- A payment can complete here. -/
  Open : σ → Prop
  hold_unpaid : ¬Paid hold
  hold_not_closed : ¬Closed hold
  hold_not_open : ¬Open hold
  paid_not_open : ∀ s, Paid s → ¬Open s
  closed_not_open : ∀ s, Closed s → ¬Open s
  closed_unpaid : ∀ s, Closed s → ¬Paid s

/-- What is fixed once the address of an order is issued. -/
structure Issue where
  address : String
  due : ℕ
  price : String

/-- A payment the plugin completed, or a hold of its own that it released: the settled amount of
the event, what the service answered when asked again, and the order as it was then. -/
structure Taking (σ : Type) where
  event : ℕ
  live : ℕ
  ours : Bool
  price : String
  review : Bool
  /-- The plugin held the order itself. -/
  own : Bool
  before : σ
  after : σ

@[ext]
structure Order (σ : Type) where
  status : σ
  /-- The order is to be paid through the plugin. -/
  ours : Bool
  price : String
  issue : Option Issue
  version : ℕ := 0
  received : ℕ := 0
  review : Bool := false
  /-- Set while the plugin marks the hold as its own, with the status to return to. -/
  mark : Option (Option σ) := none
  takings : List (Taking σ) := []

structure Event where
  version : ℕ
  settled : ℕ

def Order.Covers (a : Order σ) (zat : ℕ) : Prop := ∃ i ∈ a.issue, 0 < i.due ∧ i.due ≤ zat

/-- Less is settled than is due. -/
def Order.Short (a : Order σ) (e : Event) : Prop := ∃ i ∈ a.issue, e.settled < i.due

variable (R : Statuses σ)

/-- Anybody but the plugin changes the order. The plugin's hooks see every change of the status;
`hooks` says that what they write is never lost. -/
structure Others (hooks : Bool) (a b : Order σ) : Prop where
  issue : b.issue = a.issue
  version : b.version = a.version
  received : b.received = a.received
  takings : b.takings = a.takings
  mark : b.mark = none ∨ b.mark = a.mark
  left : hooks = true → b.mark ≠ none → a.status = R.hold → b.status = R.hold
  closed : hooks = true → a.issue ≠ none → b.status ≠ a.status → R.Closed b.status →
    b.review = true

/-- A checkout: the order gets its address, and may go back to a status it can be paid in. -/
structure Issued (a b : Order σ) : Prop where
  first : a.issue = none
  issue : ∃ i : Issue, b.issue = some i ∧ i.price = a.price
  version : b.version = 0
  mark : b.mark = a.mark
  takings : b.takings = a.takings
  status : b.status = a.status ∨ R.Open b.status

/-- When a payment may be taken, and what is recorded about it. -/
structure Taking.Proper (i : Issue) (t : Taking σ) : Prop where
  pos : 0 < i.due
  event : i.due ≤ t.event
  live : i.due ≤ t.live
  ours : t.ours = true
  price : t.price = i.price
  review : t.review = false
  before : R.Open t.before ∨ t.before = R.hold ∧ t.own = true
  after : R.Paid t.after

/-- The taking tells of the order `a` and the event `e`. -/
structure Taking.Of (t : Taking σ) (e : Event) (a : Order σ) : Prop where
  event : t.event = e.settled
  ours : t.ours = a.ours
  price : t.price = a.price
  review : t.review = a.review
  own : t.own = a.mark.isSome
  before : t.before = a.status
  /-- The remembered status is the one to return to. -/
  after : ∀ p, t.before = R.hold → a.mark = some (some p) → t.after = p

/-- What the plugin may do on an event. -/
inductive Delivered (hooks : Bool) (e : Event) (a : Order σ) : Order σ → Prop
  | ignored : Delivered hooks e a a
  /-- The attempt fails: the event is not recorded, and comes again. -/
  | kept (review : Bool) (received : ℕ) (mark : Option (Option σ))
      (newer : a.version < e.version) (keeps : a.review = true → review = true)
      (credited : received = a.received ∨ a.Covers e.settled ∧ received = e.settled)
      (marks : mark = a.mark ∨ hooks = false ∧
        (mark = none ∨ R.Paid a.status ∧ mark = some (some a.status))) :
      Delivered hooks e a { a with review, received, mark }
  | recorded (review : Bool)
      (newer : a.version < e.version) (keeps : a.review = true → review = true)
      (funded : R.Paid a.status → a.ours = true → ¬a.Short e) :
      Delivered hooks e a { a with review, version := e.version, received := e.settled }
  | held (review done : Bool)
      (newer : a.version < e.version) (keeps : a.review = true → review = true)
      (paid : R.Paid a.status) (ours : a.ours = true) (short : a.Short e) :
      Delivered hooks e a
        { a with
          status := R.hold, mark := some (some a.status), review
          version := if done then e.version else a.version
          received := if done then e.settled else a.received }
  | taken (t : Taking σ) (done : Bool) (mark : Option (Option σ))
      (newer : a.version < e.version) (of : t.Of R e a) (proper : ∀ i ∈ a.issue, t.Proper R i)
      (covers : a.Covers e.settled)
      (marks : mark = none ∨ hooks = false ∧ mark = a.mark) :
      Delivered hooks e a
        { a with
          status := t.after, mark
          version := if done then e.version else a.version
          received := e.settled
          takings := a.takings ++ [t] }

inductive Step (hooks : Bool) (a b : Order σ) : Prop
  | others (h : Others R hooks a b)
  | issued (h : Issued R a b)
  | delivered (e : Event) (issued : a.issue ≠ none) (h : Delivered R hooks e a b)

def Steps (hooks : Bool) : Order σ → Order σ → Prop := Relation.ReflTransGen (Step R hooks)

variable {R} {hooks : Bool} {a b c : Order σ} {e : Event}

/-! ### One step -/

lemma covers_iff (i : Issue) (h : a.issue = some i) (zat : ℕ) :
    a.Covers zat ↔ 0 < i.due ∧ i.due ≤ zat := by
  simp [Order.Covers, h]

lemma short_iff (i : Issue) (h : a.issue = some i) (e : Event) :
    a.Short e ↔ e.settled < i.due := by
  simp [Order.Short, h]

lemma Delivered.stale (h : Delivered R hooks e a b) (hv : e.version ≤ a.version) : b = a := by
  cases h with
  | ignored => rfl
  | kept _ _ _ newer | recorded _ newer | held _ _ newer | taken _ _ _ newer => omega

/-- An order under review stays there, and nothing is taken for it. -/
lemma Delivered.review (h : Delivered R hooks e a b) (hi : a.issue ≠ none)
    (hr : a.review = true) : b.review = true ∧ b.takings = a.takings := by
  cases h with
  | ignored => exact ⟨hr, rfl⟩
  | kept _ _ _ _ keeps | recorded _ _ keeps | held _ _ _ keeps => exact ⟨keeps hr, rfl⟩
  | taken t done mark newer of proper =>
    obtain ⟨i, hi⟩ := Option.ne_none_iff_exists'.mp hi
    have := of.review.symm.trans (proper i hi).review
    simp [hr] at this

/-- A hold that somebody else set is theirs to lift. -/
lemma Delivered.foreign_hold (h : Delivered R hooks e a b) (hi : a.issue ≠ none)
    (hs : a.status = R.hold) (hm : a.mark = none) : b.status = R.hold ∧ b.takings = a.takings := by
  cases h with
  | ignored | kept | recorded => exact ⟨hs, rfl⟩
  | held => exact ⟨rfl, rfl⟩
  | taken t done mark newer of proper =>
    obtain ⟨i, hi⟩ := Option.ne_none_iff_exists'.mp hi
    rcases (proper i hi).before with ho | ⟨-, ho⟩
    · rw [of.before, hs] at ho
      exact absurd ho R.hold_not_open
    · simp [of.own, hm] at ho

/-- A closed order is never revived. -/
lemma Delivered.closed (h : Delivered R hooks e a b) (hi : a.issue ≠ none)
    (hs : R.Closed a.status) : b.status = a.status ∧ b.takings = a.takings := by
  cases h with
  | ignored | kept | recorded => exact ⟨rfl, rfl⟩
  | held _ _ _ _ paid => exact absurd paid (R.closed_unpaid _ hs)
  | taken t done mark newer of proper =>
    obtain ⟨i, hi⟩ := Option.ne_none_iff_exists'.mp hi
    rcases (proper i hi).before with ho | ⟨ho, -⟩
    · rw [of.before] at ho
      exact absurd ho (R.closed_not_open _ hs)
    · rw [of.before] at ho
      rw [ho] at hs
      exact absurd hs R.hold_not_closed

/-- Right after an event is recorded, a paid order of the plugin's is not short of it. -/
lemma Delivered.funded (h : Delivered R hooks e a b) (hv : b.version ≠ a.version)
    (hp : R.Paid b.status) (ho : b.ours = true) : ¬b.Short e := by
  cases h with
  | ignored | kept => exact absurd rfl hv
  | recorded _ _ _ funded => exact funded hp ho
  | held => exact absurd hp R.hold_unpaid
  | taken t done mark newer of proper covers =>
    obtain ⟨i, hi, -, hc⟩ := covers
    rintro ⟨j, hj, hs⟩
    obtain rfl := Option.some.inj (Eq.trans (Eq.symm hi) hj)
    omega

/-! ### Every run -/

/-- What holds of an order after every step. -/
structure Sound (R : Statuses σ) (hooks : Bool) (a : Order σ) : Prop where
  unissued : a.issue = none → a.version = 0 ∧ a.mark = none ∧ a.takings = []
  proper : ∀ i ∈ a.issue, ∀ t ∈ a.takings, t.Proper R i
  own : hooks = true → a.mark ≠ none → a.status = R.hold
  remembered : ∀ p, a.mark = some (some p) → R.Paid p

lemma Sound.others (ha : Sound R hooks a) (h : Others R hooks a b) : Sound R hooks b where
  unissued hb := by
    obtain ⟨hv, hm, ht⟩ := ha.unissued (h.issue ▸ hb)
    refine ⟨h.version.trans hv, ?_, h.takings.trans ht⟩
    rcases h.mark with hb | hb
    · exact hb
    · exact hb.trans hm
  proper i hi t ht := ha.proper i (h.issue ▸ hi) t (h.takings ▸ ht)
  own hh hb := by
    rcases h.mark with hn | hn
    · exact absurd hn hb
    · exact h.left hh hb (ha.own hh (hn ▸ hb))
  remembered p hb := by
    rcases h.mark with hn | hn
    · simp [hn] at hb
    · exact ha.remembered p (hn ▸ hb)

lemma Sound.issued (ha : Sound R hooks a) (h : Issued R a b) : Sound R hooks b := by
  obtain ⟨-, hm, ht⟩ := ha.unissued h.first
  have hb : b.mark = none := h.mark.trans hm
  obtain ⟨i, hi, -⟩ := h.issue
  exact
    { unissued := fun hn => by simp [hi] at hn
      proper := fun j _ t hmem => by simp [h.takings, ht] at hmem
      own := fun _ hn => absurd hb hn
      remembered := fun p hp => by simp [hb] at hp }

lemma Sound.delivered (ha : Sound R hooks a) (h : Delivered R hooks e a b)
    (hi : a.issue ≠ none) : Sound R hooks b := by
  cases h with
  | ignored => exact ha
  | kept review received mark newer keeps credited marks =>
    refine ⟨fun hn => absurd hn hi, ha.proper, fun hh hm => ?_, fun p hp => ?_⟩
    · rcases marks with rfl | ⟨hf, -⟩
      · exact ha.own hh hm
      · simp [hf] at hh
    · rcases marks with rfl | ⟨-, rfl | ⟨hpaid, rfl⟩⟩
      · exact ha.remembered p hp
      · simp at hp
      · simp only [Option.some.injEq] at hp
        exact hp ▸ hpaid
  | recorded => exact ⟨fun hn => absurd hn hi, ha.proper, ha.own, ha.remembered⟩
  | held review done newer keeps paid =>
    refine ⟨fun hn => absurd hn hi, ha.proper, fun _ _ => rfl, fun p hp => ?_⟩
    simp only [Option.some.injEq] at hp
    exact hp ▸ paid
  | taken t done mark newer of proper covers marks =>
    refine ⟨fun hn => absurd hn hi, fun i hi' x hx => ?_, fun hh hm => ?_, fun p hp => ?_⟩
    · rcases List.mem_append.mp hx with hx | hx
      · exact ha.proper i hi' x hx
      · rw [List.mem_singleton.mp hx]
        exact proper i hi'
    · rcases marks with rfl | ⟨hf, -⟩
      · exact absurd rfl hm
      · simp [hf] at hh
    · rcases marks with rfl | ⟨-, rfl⟩
      · simp at hp
      · exact ha.remembered p hp

lemma Sound.step (ha : Sound R hooks a) (h : Step R hooks a b) : Sound R hooks b := by
  cases h with
  | others h => exact ha.others h
  | issued h => exact ha.issued h
  | delivered e hi h => exact ha.delivered h hi

lemma Sound.steps (ha : Sound R hooks a) (h : Steps R hooks a b) : Sound R hooks b := by
  induction h with
  | refl => exact ha
  | tail _ h ih => exact ih.step h

/-- `b` is a later state of the same order: its version is not lower, the address it was given is
the same, and what was taken stays on record. -/
structure Later (a b : Order σ) : Prop where
  version : a.version ≤ b.version
  issue : ∀ i, a.issue = some i → b.issue = some i
  takings : a.takings <+: b.takings

lemma Later.refl (a : Order σ) : Later a a := ⟨le_rfl, fun _ h => h, List.prefix_rfl⟩

lemma Later.trans (h : Later a b) (h' : Later b c) : Later a c :=
  ⟨h.version.trans h'.version, fun i hi => h'.issue i (h.issue i hi),
    h.takings.trans h'.takings⟩

lemma Delivered.later (h : Delivered R hooks e a b) : Later a b := by
  cases h with
  | ignored => exact Later.refl a
  | kept => exact ⟨le_rfl, fun _ h => h, List.prefix_rfl⟩
  | recorded _ newer => exact ⟨newer.le, fun _ h => h, List.prefix_rfl⟩
  | held _ done newer =>
    refine ⟨?_, fun _ h => h, List.prefix_rfl⟩
    cases done with
    | true => exact newer.le
    | false => exact le_rfl
  | taken t done mark newer =>
    refine ⟨?_, fun _ h => h, List.prefix_append _ _⟩
    cases done with
    | true => exact newer.le
    | false => exact le_rfl

lemma Later.step (ha : Sound R hooks a) (h : Step R hooks a b) : Later a b := by
  cases h with
  | others h => exact ⟨h.version.ge, fun i hi => h.issue.trans hi, h.takings ▸ List.prefix_rfl⟩
  | issued h =>
    refine ⟨?_, fun i hi => ?_, h.takings ▸ List.prefix_rfl⟩
    · rw [(ha.unissued h.first).1]
      exact Nat.zero_le _
    · simp [h.first] at hi
  | delivered e hi h => exact h.later

lemma Later.steps (ha : Sound R hooks a) (h : Steps R hooks a b) : Later a b := by
  induction h with
  | refl => exact Later.refl a
  | tail hs h ih => exact ih.trans (Later.step (ha.steps hs) h)

/-! ### Runs without anybody else -/

/-- Only events reach the order. -/
def Events (R : Statuses σ) (hooks : Bool) : Order σ → Order σ → Prop :=
  Relation.ReflTransGen fun a b => ∃ e, Delivered R hooks e a b

/-- An order nobody else touches: nothing is taken yet, or the payment was completed once, and
since then the order is in the status it got then, with its funds recorded, or on the plugin's own
hold, from which it went back to that status every time. -/
inductive Alone (R : Statuses σ) (i : Issue) (a : Order σ) : Prop
  | waiting (status : R.Open a.status) (mark : a.mark = none) (takings : a.takings = [])
  | funded (t : Taking σ) (rest : List (Taking σ)) (takings : a.takings = t :: rest)
      (first : R.Open t.before) (again : ∀ x ∈ rest, x.before = R.hold ∧ x.after = t.after)
      (status : a.status = t.after) (mark : a.mark = none) (received : i.due ≤ a.received)
  | held (t : Taking σ) (rest : List (Taking σ)) (takings : a.takings = t :: rest)
      (first : R.Open t.before) (again : ∀ x ∈ rest, x.before = R.hold ∧ x.after = t.after)
      (status : a.status = R.hold) (mark : a.mark = some (some t.after))

lemma Alone.delivered {i : Issue} (hi : a.issue = some i) (hours : a.ours = true)
    (ha : Sound R true a) (h : Alone R i a) (hd : Delivered R true e a b) : Alone R i b := by
  cases hd with
  | ignored => exact h
  | kept review received mark newer keeps credited marks =>
    have hm : mark = a.mark := by simpa using marks
    subst hm
    cases h with
    | waiting status mark takings => exact .waiting status mark takings
    | funded t rest takings first again status mark hrec =>
      refine .funded t rest takings first again status mark ?_
      rcases credited with rfl | ⟨hc, rfl⟩
      · exact hrec
      · exact ((covers_iff i hi _).mp hc).2
    | held t rest takings first again status mark =>
      exact .held t rest takings first again status mark
  | recorded review newer keeps funded =>
    cases h with
    | waiting status mark takings => exact .waiting status mark takings
    | funded t rest takings first again status mark hrec =>
      refine .funded t rest takings first again status mark ?_
      have hpaid : R.Paid a.status := by
        rw [status]
        exact (ha.proper i hi t (by simp [takings])).after
      have := funded hpaid hours
      rw [short_iff i hi] at this
      exact not_lt.mp this
    | held t rest takings first again status mark =>
      exact .held t rest takings first again status mark
  | held review done newer keeps paid ours short =>
    cases h with
    | waiting status => exact absurd status (R.paid_not_open _ paid)
    | funded t rest takings first again status =>
      exact .held t rest takings first again rfl (by simp [status])
    | held t rest takings first again status =>
      rw [status] at paid
      exact absurd paid R.hold_unpaid
  | taken t done mark newer of proper covers marks =>
    have hm : mark = none := by simpa using marks
    have hp := proper i hi
    have hdue := ((covers_iff i hi _).mp covers).2
    subst hm
    cases h with
    | waiting status _ takings =>
      exact .funded t [] (by simp [takings]) (of.before ▸ status) (by simp) rfl rfl hdue
    | funded t' rest takings first again status =>
      -- A paid order is not taken again.
      have hpaid : R.Paid a.status := by
        rw [status]
        exact (ha.proper i hi t' (by simp [takings])).after
      rcases hp.before with ho | ⟨ho, -⟩
      · rw [of.before] at ho
        exact absurd ho (R.paid_not_open _ hpaid)
      · rw [of.before] at ho
        rw [ho] at hpaid
        exact absurd hpaid R.hold_unpaid
    | held t' rest takings first again status mark =>
      have hback : t.after = t'.after := of.after t'.after (of.before.trans status) mark
      refine .funded t' (rest ++ [t]) (by simp [takings]) first ?_ hback rfl hdue
      intro x hx
      rcases List.mem_append.mp hx with hx | hx
      · exact again x hx
      · rw [List.mem_singleton.mp hx]
        exact ⟨of.before.trans status, hback⟩

lemma Delivered.same (h : Delivered R hooks e a b) : b.issue = a.issue ∧ b.ours = a.ours := by
  cases h <;> exact ⟨rfl, rfl⟩

lemma Alone.events {i : Issue} (hi : a.issue = some i) (hours : a.ours = true)
    (ha : Sound R true a) (h : Alone R i a) (hr : Events R true a b) :
    Alone R i b ∧ b.issue = some i ∧ b.ours = true ∧ Sound R true b := by
  induction hr with
  | refl => exact ⟨h, hi, hours, ha⟩
  | tail _ hd ih =>
    obtain ⟨e, hd⟩ := hd
    obtain ⟨h, hi, ho, ha⟩ := ih
    exact ⟨h.delivered hi ho ha hd, hd.same.1.trans hi, hd.same.2.trans ho,
      ha.delivered hd (by simp [hi])⟩

end ZcashPayment.Lifecycle

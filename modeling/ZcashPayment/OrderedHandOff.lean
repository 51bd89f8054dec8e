import Mathlib.Algebra.BigOperators.Group.List.Basic
import Mathlib.Algebra.Ring.Nat
import Mathlib.Data.List.Basic
import Mathlib.Logic.Relation
import Mathlib.Tactic.Common

/-!
Tasks that run side by side and are handed over in order.

A source gives one item after the other. Each item becomes a task; a bounded number of tasks runs
at a time and they finish in any order, but their results go into a bounded channel in the order
of the items. The first failure is handed over and ends the work, and so does a receiver that is
gone. `delivered` is what a loop over the items would hand over, one at a time.
-/

namespace OrderedHandOff

open Relation

universe u v w

variable {β : Type u} {δ : Type v} {ε : Type w}

/-- How a task ends: with a value, with a failure, or without a result of its own. -/
inductive Outcome (δ : Type v) (ε : Type w)
  | value (d : δ)
  | failure (e : ε)
  | lost (e : ε)

structure Source (β : Type u) (δ : Type v) (ε : Type w) where
  following : β → Option β
  outcome : β → Outcome δ ε
  /-- How many tasks may run. -/
  width : ℕ
  /-- How many results the channel holds. -/
  capacity : ℕ

structure Task (β : Type u) where
  item : β
  finished : Bool

inductive Phase (β : Type u) (δ : Type v) (ε : Type w)
  | filling
  | waiting (task : Task β)
  | sending (result : Except ε δ)
  | returned (result : Except ε Unit)

structure State (β : Type u) (δ : Type v) (ε : Type w) where
  next : Option β
  inFlight : List (Task β)
  phase : Phase β δ ε
  channel : List (Except ε δ)
  /-- Whether the receiver is there. -/
  isOpen : Bool
  /-- All that was put into the channel. -/
  sent : List (Except ε δ)
  /-- Whether a result found no receiver. -/
  refused : Bool

def State.initial (first : β) : State β δ ε :=
  { next := some first, inFlight := [], phase := .filling, channel := [], isOpen := true,
    sent := [], refused := false }

/-- What the receiver does to the channel. -/
inductive Receive : State β δ ε → State β δ ε → Prop
  | take {s : State β δ ε} {r : Except ε δ} {rest : List (Except ε δ)} (hopen : s.isOpen = true)
      (hc : s.channel = r :: rest) : Receive s { s with channel := rest }
  | close {s : State β δ ε} : Receive s { s with isOpen := false }

namespace Source

variable (S : Source β δ ε)

/-- One step of the side that runs the tasks, or of a task. -/
inductive Step : State β δ ε → State β δ ε → Prop
  | spawn {s : State β δ ε} {b : β} (hp : s.phase = .filling)
      (hroom : s.inFlight.length < S.width) (hnext : s.next = some b) :
      Step s { s with next := S.following b, inFlight := s.inFlight ++ [⟨b, false⟩] }
  | pop {s : State β δ ε} {task : Task β} {tasks : List (Task β)} (hp : s.phase = .filling)
      (hfull : S.width ≤ s.inFlight.length ∨ s.next = none) (hq : s.inFlight = task :: tasks) :
      Step s { s with inFlight := tasks, phase := .waiting task }
  | finishLoop {s : State β δ ε} (hp : s.phase = .filling) (hnext : s.next = none)
      (hq : s.inFlight = []) :
      Step s { s with phase := .returned (.ok ()) }
  | finish {s : State β δ ε} {b : β} {before after : List (Task β)}
      (hq : s.inFlight = before ++ ⟨b, false⟩ :: after) :
      Step s { s with inFlight := before ++ ⟨b, true⟩ :: after }
  | finishAwaited {s : State β δ ε} {b : β} (hp : s.phase = .waiting ⟨b, false⟩) :
      Step s { s with phase := .waiting ⟨b, true⟩ }
  | value {s : State β δ ε} {b : β} {d : δ} (hp : s.phase = .waiting ⟨b, true⟩)
      (hb : S.outcome b = .value d) :
      Step s { s with phase := .sending (.ok d) }
  | failure {s : State β δ ε} {b : β} {e : ε} (hp : s.phase = .waiting ⟨b, true⟩)
      (hb : S.outcome b = .failure e) :
      Step s { s with phase := .sending (.error e) }
  | lost {s : State β δ ε} {b : β} {e : ε} (hp : s.phase = .waiting ⟨b, true⟩)
      (hb : S.outcome b = .lost e) :
      Step s { s with inFlight := [], phase := .returned (.error e) }
  | send {s : State β δ ε} {d : δ} (hp : s.phase = .sending (.ok d)) (hopen : s.isOpen = true)
      (hroom : s.channel.length < S.capacity) :
      Step s { s with
        phase := .filling, channel := s.channel ++ [.ok d], sent := s.sent ++ [.ok d] }
  | sendFailure {s : State β δ ε} {e : ε} (hp : s.phase = .sending (.error e))
      (hopen : s.isOpen = true) (hroom : s.channel.length < S.capacity) :
      Step s { s with
        inFlight := [], phase := .returned (.ok ())
        channel := s.channel ++ [.error e], sent := s.sent ++ [.error e] }
  | refuse {s : State β δ ε} {r : Except ε δ} (hp : s.phase = .sending r)
      (hclosed : s.isOpen = false) :
      Step s { s with inFlight := [], phase := .returned (.ok ()), refused := true }

/-- The items from the first one on. -/
inductive Lists : Option β → List β → Prop
  | nil : Lists none []
  | cons {b : β} {items : List β} (h : Lists (S.following b) items) : Lists (some b) (b :: items)

/-- What a loop hands over: the values up to the first item without one, and its failure. -/
def delivered : List β → List (Except ε δ)
  | [] => []
  | b :: items =>
    match S.outcome b with
    | .value d => .ok d :: delivered items
    | .failure e => [.error e]
    | .lost _ => []

/-- What such a loop returns. -/
def result : List β → Except ε Unit
  | [] => .ok ()
  | b :: items =>
    match S.outcome b with
    | .value _ => result items
    | .failure _ => .ok ()
    | .lost e => .error e

end Source

/-- The tasks that may still be running. -/
def State.running (s : State β δ ε) : ℕ :=
  match s.phase with
  | .waiting _ => s.inFlight.length + 1
  | _ => s.inFlight.length

/-- Where the work stands on the items that are not handed over, from the ones of the tasks that
are queued and the next item on. -/
inductive Standing (S : Source β δ ε) (next : Option β) (queued : List β) (refused : Bool) :
    Phase β δ ε → List β → Prop
  | filling {items : List β} (h : S.Lists next items) :
      Standing S next queued refused .filling (queued ++ items)
  | waiting {items : List β} {task : Task β} (h : S.Lists next items) :
      Standing S next queued refused (.waiting task) (task.item :: (queued ++ items))
  | sendingValue {items : List β} {b : β} {d : δ} (h : S.Lists next items)
      (hb : S.outcome b = .value d) :
      Standing S next queued refused (.sending (.ok d)) (b :: (queued ++ items))
  | sendingFailure {items : List β} {b : β} {e : ε} (hb : S.outcome b = .failure e) :
      Standing S next queued refused (.sending (.error e)) (b :: items)
  | returned {r : Except ε Unit} {items : List β}
      (h : refused = false → S.delivered items = [] ∧ S.result items = r) :
      Standing S next queued refused (.returned r) items

structure Inv (S : Source β δ ε) (items : List β) (s : State β δ ε) : Prop where
  standing : ∃ tail, Standing S s.next (s.inFlight.map Task.item) s.refused s.phase tail ∧
    S.delivered items = s.sent ++ S.delivered tail ∧ S.result items = S.result tail
  running : s.running ≤ S.width
  refused : s.refused = true → s.isOpen = false
  /-- The channel holds the end of what was sent. -/
  channel : ∃ taken, s.sent = taken ++ s.channel

variable {S : Source β δ ε} {s s' : State β δ ε} {items items' tail : List β} {b : β} {d : δ}
  {e : ε}

/-! ### What is delivered -/

lemma delivered_value (hb : S.outcome b = .value d) :
    S.delivered (b :: items) = .ok d :: S.delivered items ∧
      S.result (b :: items) = S.result items := by
  simp only [Source.delivered, Source.result, hb, and_self]

lemma delivered_failure (hb : S.outcome b = .failure e) :
    S.delivered (b :: items) = [.error e] ∧ S.result (b :: items) = .ok () := by
  simp only [Source.delivered, Source.result, hb, and_self]

lemma delivered_lost (hb : S.outcome b = .lost e) :
    S.delivered (b :: items) = [] ∧ S.result (b :: items) = .error e := by
  simp only [Source.delivered, Source.result, hb, and_self]

/-- **What a delivery stands for**: values are those of the first items, and after them comes the
failure of the next item or nothing that the delivery shows. -/
lemma delivered_prefix {ds : List δ} {rest : List (Except ε δ)}
    (h : S.delivered items = ds.map .ok ++ rest) :
    ∃ before after, items = before ++ after ∧
      List.Forall₂ (fun b d => S.outcome b = .value d) before ds ∧
      S.delivered after = rest ∧ S.result after = S.result items := by
  induction ds generalizing items with
  | nil => exact ⟨[], items, rfl, .nil, h, rfl⟩
  | cons d ds ih =>
    rcases items with _ | ⟨b, items⟩
    · cases h
    rcases hb : S.outcome b with d' | e | e
    · rw [(delivered_value hb).1, List.map_cons, List.cons_append, List.cons.injEq,
        Except.ok.injEq] at h
      obtain ⟨rfl, h⟩ := h
      obtain ⟨before, after, rfl, hvalues, hrest, hresult⟩ := ih h
      exact ⟨b :: before, after, rfl, .cons hb hvalues, hrest,
        hresult.trans (delivered_value hb).2.symm⟩
    · rw [(delivered_failure hb).1] at h
      cases h
    · rw [(delivered_lost hb).1] at h
      cases h

lemma delivered_error {rest : List (Except ε δ)} (h : S.delivered items = .error e :: rest) :
    ∃ b after, items = b :: after ∧ S.outcome b = .failure e ∧ rest = [] := by
  rcases items with _ | ⟨b, items⟩
  · cases h
  rcases hb : S.outcome b with d | e' | e'
  · rw [(delivered_value hb).1] at h
    cases h
  · rw [(delivered_failure hb).1] at h
    cases h
    exact ⟨b, items, rfl, hb, rfl⟩
  · rw [(delivered_lost hb).1] at h
    cases h

lemma delivered_nil (h : S.delivered items = []) :
    items = [] ∨ ∃ b after e, items = b :: after ∧ S.outcome b = .lost e := by
  rcases items with _ | ⟨b, items⟩
  · exact Or.inl rfl
  rcases hb : S.outcome b with d | e | e
  · rw [(delivered_value hb).1] at h
    cases h
  · rw [(delivered_failure hb).1] at h
    cases h
  · exact Or.inr ⟨b, items, e, rfl, hb⟩

/-! ### One step -/

lemma inv_initial {first : β} (h : S.Lists (some first) items) :
    Inv S items (.initial first) where
  standing := ⟨items, .filling h, rfl, rfl⟩
  running := Nat.zero_le _
  refused h := by cases h
  channel := ⟨[], rfl⟩

/-- **One step** keeps what is delivered and what runs. -/
lemma Inv.step (hs : Inv S items s) (h : S.Step s s') : Inv S items s' := by
  obtain ⟨⟨tail, hstanding, hdelivered, hresult⟩, hrunning, hrefused, taken, htaken⟩ := hs
  cases h with
  | @spawn b hp hroom hnext =>
    rw [hp, hnext] at hstanding
    cases hstanding with
    | @filling rest hrest =>
      cases hrest with
      | @cons b rest hrest =>
        have hstill : Standing S (S.following b) (s.inFlight.map Task.item ++ [b]) s.refused s.phase
            (s.inFlight.map Task.item ++ [b] ++ rest) := hp ▸ .filling hrest
        rw [List.append_assoc, List.singleton_append] at hstill
        refine ⟨⟨_, ?_, hdelivered, hresult⟩, ?_, hrefused, taken, htaken⟩
        · simpa only [List.map_append, List.map_singleton] using hstill
        · simp only [State.running, hp, List.length_append, List.length_singleton]
          exact hroom
  | pop hp hfull hq =>
    rw [hp, hq] at hstanding
    cases hstanding with
    | @filling rest hrest =>
      refine ⟨⟨_, .waiting hrest, hdelivered, hresult⟩, ?_, hrefused, taken, htaken⟩
      simpa only [State.running, hp, hq, List.length_cons] using hrunning
  | finishLoop hp hnext hq =>
    rw [hp, hq, hnext] at hstanding
    cases hstanding with
    | filling hrest =>
      cases hrest
      refine ⟨⟨[], .returned fun _ => ⟨rfl, rfl⟩, hdelivered, hresult⟩, ?_, hrefused, taken,
        htaken⟩
      simp only [State.running, hq, List.length_nil, Nat.zero_le]
  | finish hq =>
    refine ⟨⟨tail, ?_, hdelivered, hresult⟩, ?_, hrefused, taken, htaken⟩
    · simpa only [hq, List.map_append, List.map_cons] using hstanding
    · simpa only [State.running, hq, List.length_append, List.length_cons] using hrunning
  | finishAwaited hp =>
    rw [hp] at hstanding
    cases hstanding with
    | waiting hrest =>
      refine ⟨⟨_, .waiting hrest, hdelivered, hresult⟩, ?_, hrefused, taken, htaken⟩
      simpa only [State.running, hp] using hrunning
  | value hp hb =>
    rw [hp] at hstanding
    cases hstanding with
    | waiting hrest =>
      refine ⟨⟨_, .sendingValue hrest hb, hdelivered, hresult⟩, ?_, hrefused, taken, htaken⟩
      simp only [State.running, hp] at hrunning ⊢
      omega
  | failure hp hb =>
    rw [hp] at hstanding
    cases hstanding with
    | waiting hrest =>
      refine ⟨⟨_, .sendingFailure hb, hdelivered, hresult⟩, ?_, hrefused, taken, htaken⟩
      simp only [State.running, hp] at hrunning ⊢
      omega
  | lost hp hb =>
    rw [hp] at hstanding
    cases hstanding with
    | waiting hrest =>
      refine ⟨⟨_, .returned fun _ => delivered_lost hb, hdelivered, hresult⟩, ?_, hrefused,
        taken, htaken⟩
      simp only [State.running, List.length_nil, Nat.zero_le]
  | send hp hopen hroom =>
    rw [hp] at hstanding
    cases hstanding with
    | sendingValue hrest hb =>
      refine ⟨⟨_, .filling hrest, ?_, hresult.trans (delivered_value hb).2⟩, ?_, hrefused, taken,
        ?_⟩
      · rw [hdelivered, (delivered_value hb).1, List.append_assoc, List.singleton_append]
      · simpa only [State.running, hp] using hrunning
      · rw [htaken, List.append_assoc]
  | sendFailure hp hopen hroom =>
    rw [hp] at hstanding
    cases hstanding with
    | sendingFailure hb =>
      refine ⟨⟨[], .returned fun _ => ⟨rfl, rfl⟩, ?_, hresult.trans (delivered_failure hb).2⟩,
        ?_, hrefused, taken, ?_⟩
      · rw [hdelivered, (delivered_failure hb).1]
        simp only [Source.delivered, List.append_nil]
      · simp only [State.running, List.length_nil, Nat.zero_le]
      · rw [htaken, List.append_assoc]
  | refuse hp hclosed =>
    refine ⟨⟨tail, .returned (fun h => by cases h), hdelivered, hresult⟩, ?_, fun _ => hclosed,
      taken, htaken⟩
    simp only [State.running, List.length_nil, Nat.zero_le]

/-- What a step does to the channel. -/
lemma step_channel (h : S.Step s s') : s'.isOpen = s.isOpen ∧ ∃ new, s'.sent = s.sent ++ new ∧
    s'.channel = s.channel ++ new ∧
      ∀ r, s.phase = .returned r → s'.phase = .returned r ∧ new = [] := by
  cases h with
  | @finish b before after hq =>
    exact ⟨rfl, [], (List.append_nil _).symm, (List.append_nil _).symm, fun r hr => ⟨hr, rfl⟩⟩
  | @send d hp hopen hroom =>
    refine ⟨rfl, [.ok d], rfl, rfl, fun r hr => ?_⟩
    rw [hp] at hr
    cases hr
  | @sendFailure e hp hopen hroom =>
    refine ⟨rfl, [.error e], rfl, rfl, fun r hr => ?_⟩
    rw [hp] at hr
    cases hr
  | spawn hp | pop hp | finishLoop hp | finishAwaited hp | value hp | failure hp | lost hp
  | refuse hp =>
    refine ⟨rfl, [], (List.append_nil _).symm, (List.append_nil _).symm, fun r hr => ?_⟩
    rw [hp] at hr
    cases hr

/-- The receiver changes nothing of what is delivered. -/
lemma Inv.receive (hs : Inv S items s) (h : Receive s s') : Inv S items s' := by
  obtain ⟨hstanding, hrunning, hrefused, taken, htaken⟩ := hs
  cases h with
  | @take r rest hopen hc =>
    refine ⟨hstanding, hrunning, hrefused, taken ++ [r], ?_⟩
    rw [htaken, hc, List.append_assoc, List.singleton_append]
  | close => exact ⟨hstanding, hrunning, fun _ => rfl, taken, htaken⟩

/-- **What was sent** is the beginning of the delivery. -/
lemma Inv.sent_prefix (hs : Inv S items s) : s.sent <+: S.delivered items := by
  obtain ⟨⟨tail, -, hdelivered, -⟩, -⟩ := hs
  exact ⟨_, hdelivered.symm⟩

/-- **When the work returns** to a receiver that took all results, it has delivered everything. -/
lemma Inv.sent_of_returned {r : Except ε Unit} (hs : Inv S items s) (hp : s.phase = .returned r)
    (hr : s.refused = false) : s.sent = S.delivered items ∧ S.result items = r := by
  obtain ⟨⟨tail, hstanding, hdelivered, hresult⟩, -⟩ := hs
  rw [hp] at hstanding
  cases hstanding with
  | returned h =>
    obtain ⟨hnil, hr'⟩ := h hr
    rw [hdelivered, hnil, List.append_nil]
    exact ⟨rfl, hresult.trans hr'⟩

/-! ### Progress -/

/-- The work goes on unless the channel is full. -/
lemma exists_step (hwidth : 0 < S.width) (hp : ∀ r, s.phase ≠ .returned r)
    (hroom : s.isOpen = true → s.channel.length < S.capacity) : ∃ s', S.Step s s' := by
  rcases hphase : s.phase with _ | ⟨b, _ | _⟩ | r | r
  · by_cases hfull : S.width ≤ s.inFlight.length ∨ s.next = none
    · rcases hq : s.inFlight with _ | ⟨task, tasks⟩
      · rw [hq, List.length_nil] at hfull
        exact ⟨_, .finishLoop hphase (hfull.resolve_left (by omega)) hq⟩
      · exact ⟨_, .pop hphase hfull hq⟩
    · rw [not_or, Nat.not_le] at hfull
      obtain ⟨b, hb⟩ := Option.ne_none_iff_exists'.mp hfull.2
      exact ⟨_, .spawn hphase hfull.1 hb⟩
  · exact ⟨_, .finishAwaited hphase⟩
  · rcases hb : S.outcome b with d | e | e
    · exact ⟨_, .value hphase hb⟩
    · exact ⟨_, .failure hphase hb⟩
    · exact ⟨_, .lost hphase hb⟩
  · rcases hopen : s.isOpen
    · exact ⟨_, .refuse hphase hopen⟩
    · rcases r with e | d
      · exact ⟨_, .sendFailure hphase hopen (hroom hopen)⟩
      · exact ⟨_, .send hphase hopen (hroom hopen)⟩
  · exact absurd hphase (hp r)

/-- What is left to do; `rest` are the items that are not tasks yet. -/
def State.work (s : State β δ ε) (rest : List β) : ℕ :=
  let task := fun task : Task β => if task.finished then 10 else 11
  let current :=
    match s.phase with
    | .filling => 1
    | .waiting t => task t - 1
    | .sending _ => 8
    | .returned _ => 0
  12 * rest.length + (s.inFlight.map task).sum + current + 6 * s.channel.length

/-- **Every step** leaves less to do. -/
lemma work_step {rest : List β} (hrest : S.Lists s.next rest) (h : S.Step s s') :
    ∃ rest', S.Lists s'.next rest' ∧ s'.work rest' < s.work rest := by
  cases h with
  | @spawn b hp hroom hnext =>
    rw [hnext] at hrest
    cases hrest with
    | @cons b rest hrest =>
      refine ⟨rest, hrest, ?_⟩
      simp only [State.work, hp, List.length_cons, List.map_append, List.map_singleton,
        List.sum_append, List.sum_singleton, Bool.false_eq_true, if_false]
      omega
  | @pop task tasks hp hfull hq =>
    refine ⟨rest, hrest, ?_⟩
    simp only [State.work, hp, hq, List.map_cons, List.sum_cons]
    split_ifs <;> omega
  | finishLoop hp hnext hq =>
    refine ⟨rest, hrest, ?_⟩
    simp only [State.work, hp]
    omega
  | @finish b before after hq =>
    refine ⟨rest, hrest, ?_⟩
    simp only [State.work, hq, List.map_append, List.map_cons, List.sum_append, List.sum_cons,
      Bool.false_eq_true, if_false, if_true]
    omega
  | finishAwaited hp =>
    refine ⟨rest, hrest, ?_⟩
    simp only [State.work, hp, Bool.false_eq_true, if_false, if_true]
    omega
  | value hp hb | failure hp hb =>
    refine ⟨rest, hrest, ?_⟩
    simp only [State.work, hp, if_true]
    omega
  | lost hp hb =>
    refine ⟨rest, hrest, ?_⟩
    simp only [State.work, hp, if_true, List.map_nil, List.sum_nil]
    omega
  | send hp hopen hroom =>
    refine ⟨rest, hrest, ?_⟩
    simp only [State.work, hp, List.length_append, List.length_singleton]
    omega
  | sendFailure hp hopen hroom =>
    refine ⟨rest, hrest, ?_⟩
    simp only [State.work, hp, List.length_append, List.length_singleton, List.map_nil,
      List.sum_nil]
    omega
  | refuse hp hclosed =>
    refine ⟨rest, hrest, ?_⟩
    simp only [State.work, hp, List.map_nil, List.sum_nil]
    omega

end OrderedHandOff

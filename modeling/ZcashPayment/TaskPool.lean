import Mathlib.Algebra.BigOperators.Group.List.Basic
import Mathlib.Algebra.Ring.Nat
import Mathlib.Data.List.Basic
import Mathlib.Data.List.Forall2
import Mathlib.Logic.Relation
import Mathlib.Tactic.Common

/-!
Fallible tasks that a pool of workers takes and finishes in any order.

A value is kept at the place of its item. The first failure that is reported is kept; a worker that
has seen it takes no further task, one that has not may. When every task is over the pool returns
the failure, or the values in the order of the items. This is what an ordered parallel collection
of fallible results documents, whichever schedule its threads follow.
-/

namespace TaskPool

open Relation

universe u v w

variable {α : Type u} {β : Type v} {ε : Type w}

inductive Task (β : Type v)
  | waiting
  | running
  | done (value : β)
  | failed
  | skipped

structure State (β : Type v) (ε : Type w) where
  tasks : List (Task β)
  failure : Option ε

def State.initial (items : List α) : State β ε := ⟨items.map fun _ => .waiting, none⟩

/-- What a worker does. -/
inductive Step (f : α → Except ε β) (items : List α) : State β ε → State β ε → Prop
  | take {s : State β ε} {i : ℕ} (hi : s.tasks[i]? = some .waiting) :
      Step f items s { s with tasks := s.tasks.set i .running }
  | skip {s : State β ε} {i : ℕ} (hi : s.tasks[i]? = some .waiting)
      (hs : s.failure.isSome = true) :
      Step f items s { s with tasks := s.tasks.set i .skipped }
  | finish {s : State β ε} {i : ℕ} {a : α} {b : β} (hi : s.tasks[i]? = some .running)
      (ha : items[i]? = some a) (hb : f a = .ok b) :
      Step f items s { s with tasks := s.tasks.set i (.done b) }
  | fail {s : State β ε} {i : ℕ} {a : α} {e : ε} (hi : s.tasks[i]? = some .running)
      (ha : items[i]? = some a) (he : f a = .error e) :
      Step f items s { tasks := s.tasks.set i .failed, failure := s.failure.or (some e) }

def Task.over : Task β → Bool
  | .waiting | .running => false
  | .done _ | .failed | .skipped => true

def Task.value? : Task β → Option β
  | .done value => some value
  | _ => none

def State.over (s : State β ε) : Bool := s.tasks.all Task.over

/-- What the pool returns when every task is over. -/
def State.returned (s : State β ε) : Except ε (List β) :=
  match s.failure with
  | some e => .error e
  | none => .ok (s.tasks.filterMap Task.value?)

variable {f : α → Except ε β} {items : List α} {s s' : State β ε}

/-! ### What a task says of its item -/

def Stands (f : α → Except ε β) (failed : Bool) (a : α) : Task β → Prop
  | .waiting | .running => True
  | .done b => f a = .ok b
  | .failed | .skipped => failed = true

lemma Stands.mono {failed failed' : Bool} (h : failed = true → failed' = true) {a : α}
    {task : Task β} (ht : Stands f failed a task) : Stands f failed' a task := by
  cases task with
  | failed | skipped => exact h ht
  | _ => exact ht

structure Inv (f : α → Except ε β) (items : List α) (s : State β ε) : Prop where
  stands : items.Forall₂ (Stands f s.failure.isSome) s.tasks
  failure : ∀ e, s.failure = some e → ∃ a ∈ items, f a = .error e

lemma inv_initial (f : α → Except ε β) (items : List α) : Inv f items (.initial items) where
  stands := List.forall₂_map_right_iff.mpr (List.forall₂_same.mpr fun _ _ => trivial)
  failure _ h := by cases h

lemma forall₂_set {R : α → Task β → Prop} {tasks : List (Task β)} {i : ℕ} {task : Task β}
    (h : items.Forall₂ R tasks) (ht : ∀ a, items[i]? = some a → R a task) :
    items.Forall₂ R (tasks.set i task) := by
  induction h generalizing i with
  | nil => exact .nil
  | cons h hs ih =>
    cases i with
    | zero => exact .cons (ht _ rfl) hs
    | succ i => exact .cons h (ih ht)

lemma Inv.step (hs : Inv f items s) (h : Step f items s s') : Inv f items s' := by
  cases h with
  | take hi => exact ⟨forall₂_set hs.stands fun _ _ => trivial, hs.failure⟩
  | skip hi hfailed => exact ⟨forall₂_set hs.stands fun _ _ => hfailed, hs.failure⟩
  | @finish i a b hi ha hb =>
    refine ⟨forall₂_set hs.stands fun a' ha' => ?_, hs.failure⟩
    rw [← Option.some.inj (ha.symm.trans ha')]
    exact hb
  | @fail i a e hi ha he =>
    have hsome : (s.failure.or (some e)).isSome = true := by
      cases s.failure <;> rfl
    refine ⟨forall₂_set (hs.stands.imp fun a t ht => ht.mono fun _ => hsome) fun _ _ => hsome,
      fun e' he' => ?_⟩
    rcases hf : s.failure with _ | e₀
    · rw [hf] at he'
      cases he'
      exact ⟨a, List.mem_of_getElem? ha, he⟩
    · rw [hf] at he'
      cases he'
      exact hs.failure _ hf

lemma Inv.run (hs : Inv f items s) (h : ReflTransGen (Step f items) s s') : Inv f items s' := by
  induction h with
  | refl => exact hs
  | tail _ h ih => exact ih.step h

/-! ### What the pool returns -/

lemma mapM_ok_of_forall₂ {values : List β} (h : items.Forall₂ (fun a b => f a = .ok b) values) :
    items.mapM f = .ok values := by
  induction h with
  | nil => rfl
  | cons h _ ih =>
    rw [List.mapM_cons, h, ih]
    rfl

/-- A loop fails with the failure of one of its items. -/
lemma exists_error {e : ε} (h : items.mapM f = .error e) : ∃ a ∈ items, f a = .error e := by
  induction items with
  | nil => cases h
  | cons a items ih =>
    rw [List.mapM_cons] at h
    rcases ha : f a with e' | b
    · rw [ha] at h
      cases h
      exact ⟨a, List.mem_cons_self, ha⟩
    · rcases hm : items.mapM f with e' | bs
      · rw [ha, hm] at h
        cases h
        obtain ⟨c, hc, he⟩ := ih hm
        exact ⟨c, List.mem_cons_of_mem _ hc, he⟩
      · rw [ha, hm] at h
        cases h

/-- A loop over an item that fails does not return. -/
lemma mapM_error {a : α} {e : ε} (ha : a ∈ items) (he : f a = .error e) :
    ∃ e', items.mapM f = .error e' := by
  induction items with
  | nil => cases ha
  | cons b items ih =>
    rw [List.mapM_cons]
    rcases hb : f b with e' | v
    · exact ⟨e', rfl⟩
    · have ha' : a ∈ items := by
        rcases List.mem_cons.mp ha with rfl | ha
        · rw [he] at hb
          cases hb
        · exact ha
      obtain ⟨e', hm⟩ := ih ha'
      rw [hm]
      exact ⟨e', rfl⟩

lemma done_of_over {tasks : List (Task β)} (h : items.Forall₂ (Stands f false) tasks)
    (hover : ∀ task ∈ tasks, task.over = true) :
    items.Forall₂ (fun a b => f a = .ok b) (tasks.filterMap Task.value?) := by
  induction h with
  | nil => exact .nil
  | @cons a task items tasks ht _ ih =>
    have hrest := ih fun task htask => hover task (List.mem_cons_of_mem _ htask)
    have htask := hover task List.mem_cons_self
    cases task with
    | done b => exact .cons ht hrest
    | failed | skipped => cases ht
    | waiting | running => cases htask

/-- **What a pool returns is what a loop returns**: the values in the order of the items, or the
failure of one of the items, and then the loop fails too. -/
lemma returned_of_over (h : ReflTransGen (Step f items) (.initial items) s)
    (hover : s.over = true) :
    (∃ values, items.mapM f = .ok values ∧ s.returned = .ok values) ∨
      ∃ a ∈ items, ∃ e, f a = .error e ∧ s.returned = .error e ∧
        ∃ e', items.mapM f = .error e' := by
  have hs := (inv_initial f items).run h
  rcases hf : s.failure with _ | e
  · refine .inl ⟨s.tasks.filterMap Task.value?, mapM_ok_of_forall₂ ?_, ?_⟩
    · have hstands := hs.stands
      rw [hf] at hstands
      exact done_of_over hstands (List.all_eq_true.mp hover)
    · rw [State.returned, hf]
  · obtain ⟨a, ha, he⟩ := hs.failure e hf
    obtain ⟨e', hm⟩ := mapM_error ha he
    refine .inr ⟨a, ha, e, he, ?_, e', hm⟩
    rw [State.returned, hf]

/-! ### A pool ends -/

/-- The steps a task may still take. -/
def Task.work : Task β → ℕ
  | .waiting => 2
  | .running => 1
  | .done _ | .failed | .skipped => 0

def State.work (s : State β ε) : ℕ := (s.tasks.map Task.work).sum

lemma work_set {tasks : List (Task β)} {i : ℕ} {old new : Task β} (h : tasks[i]? = some old)
    (hlt : new.work < old.work) :
    ((tasks.set i new).map Task.work).sum < (tasks.map Task.work).sum := by
  induction tasks generalizing i with
  | nil => cases h
  | cons task tasks ih =>
    cases i with
    | zero =>
      cases h
      simpa using hlt
    | succ i => simpa using ih h

lemma Step.work_lt (h : Step f items s s') : s'.work < s.work := by
  cases h with
  | take hi | skip hi _ | finish hi _ _ | fail hi _ _ =>
    exact work_set hi (by simp [Task.work])

/-- While a task is not over, a worker can do something. -/
lemma Inv.exists_step (hs : Inv f items s) (h : s.over = false) : ∃ s', Step f items s s' := by
  obtain ⟨task, htask, hover⟩ := List.all_eq_false.mp h
  obtain ⟨i, hlt, hget⟩ := List.mem_iff_getElem.mp htask
  have hi : s.tasks[i]? = some task := by rw [List.getElem?_eq_getElem hlt, hget]
  cases task with
  | waiting => exact ⟨_, .take hi⟩
  | running =>
    obtain ⟨a, ha⟩ : ∃ a, items[i]? = some a :=
      ⟨_, List.getElem?_eq_getElem (hs.stands.length_eq ▸ hlt)⟩
    rcases hf : f a with e | b
    · exact ⟨_, .fail hi ha hf⟩
    · exact ⟨_, .finish hi ha hf⟩
  | done _ | failed | skipped => exact absurd rfl hover

/-- **Every pool can be run to its end.** -/
lemma exists_over (hs : Inv f items s) :
    ∃ s', ReflTransGen (Step f items) s s' ∧ s'.over = true := by
  induction hn : s.work using Nat.strong_induction_on generalizing s with
  | _ n ih =>
    subst hn
    rcases hover : s.over with _ | _
    · obtain ⟨s₁, h₁⟩ := hs.exists_step hover
      obtain ⟨s', h', hover'⟩ := ih s₁.work h₁.work_lt (hs.step h₁) rfl
      exact ⟨s', .head h₁ h', hover'⟩
    · exact ⟨s, .refl, hover⟩

end TaskPool

import Mathlib.Data.List.Nodup
import Mathlib.Logic.Function.Basic
import Mathlib.Logic.Relation
import Mathlib.Tactic.Common

/-!
Transactions that take the write lock when they begin.

Calls run side by side, each as one transaction over a store. A transaction works on a copy of
the store, statement by statement, and no other transaction is open meanwhile. A commit puts the
copy in the place of the store; a call that fails, at whatever point, leaves the store alone.
So every interleaving does to the store what the committed calls do one after another.
-/

namespace Transactions

open Relation

universe u₁ u₂ u₃ u₄ u₅

/-- What each call does in its transaction: the statement it runs next from the place it is at,
or the result it commits with. -/
structure Program (ι : Type u₁) (σ : Type u₂) (Λ : Type u₃) (ε : Type u₄) (ρ : Type u₅) where
  entry : ι → Λ
  next : ι → Λ → (σ → Except ε (Λ × σ)) ⊕ ρ

inductive Phase (σ : Type u₂) (Λ : Type u₃) (ε : Type u₄) (ρ : Type u₅)
  | called
  | inTransaction (place : Λ) (working : σ)
  | returned (result : Except ε ρ)

structure State (ι : Type u₁) (σ : Type u₂) (Λ : Type u₃) (ε : Type u₄) (ρ : Type u₅) where
  stored : σ
  phase : ι → Phase σ Λ ε ρ

namespace State

variable {ι : Type u₁} {σ : Type u₂} {Λ : Type u₃} {ε : Type u₄} {ρ : Type u₅} [DecidableEq ι]
  {s : State ι σ Λ ε ρ} {c d : ι} {p q : Phase σ Λ ε ρ}

def setPhase (s : State ι σ Λ ε ρ) (c : ι) (p : Phase σ Λ ε ρ) : State ι σ Λ ε ρ :=
  { s with phase := Function.update s.phase c p }

@[simp] lemma setPhase_stored : (s.setPhase c p).stored = s.stored := rfl

@[simp] lemma setPhase_self : (s.setPhase c p).phase c = p := Function.update_self ..

lemma setPhase_of_ne (h : d ≠ c) : (s.setPhase c p).phase d = s.phase d :=
  Function.update_of_ne h ..

lemma setPhase_setPhase : (s.setPhase c p).setPhase c q = s.setPhase c q := by
  simp only [setPhase, Function.update_idem]

end State

namespace Program

variable {ι : Type u₁} {σ : Type u₂} {Λ : Type u₃} {ε : Type u₄} {ρ : Type u₅} [DecidableEq ι]
  (P : Program ι σ Λ ε ρ)

/-- One step of one call. Any error can end a call, before its transaction is open or later. -/
inductive Step : State ι σ Λ ε ρ → State ι σ Λ ε ρ → Prop
  | begin {s : State ι σ Λ ε ρ} {c : ι} (hc : s.phase c = .called)
      (hfree : ∀ d place working, s.phase d ≠ .inTransaction place working) :
      Step s (s.setPhase c (.inTransaction (P.entry c) s.stored))
  | refuse {s : State ι σ Λ ε ρ} {c : ι} (e : ε) (hc : s.phase c = .called) :
      Step s (s.setPhase c (.returned (.error e)))
  | statement {s : State ι σ Λ ε ρ} {c : ι} {place place' : Λ} {working working' : σ}
      {run : σ → Except ε (Λ × σ)} (hc : s.phase c = .inTransaction place working)
      (hnext : P.next c place = .inl run) (hrun : run working = .ok (place', working')) :
      Step s (s.setPhase c (.inTransaction place' working'))
  | rollback {s : State ι σ Λ ε ρ} {c : ι} {place : Λ} {working : σ} (e : ε)
      (hc : s.phase c = .inTransaction place working) :
      Step s (s.setPhase c (.returned (.error e)))
  | commit {s : State ι σ Λ ε ρ} {c : ι} {place : Λ} {working : σ} {r : ρ}
      (hc : s.phase c = .inTransaction place working) (hnext : P.next c place = .inr r) :
      Step s ({ s with stored := working }.setPhase c (.returned (.ok r)))

omit [DecidableEq ι] in
def initial (t : σ) : State ι σ Λ ε ρ := ⟨t, fun _ => .called⟩

def Reachable (t : σ) (s : State ι σ Λ ε ρ) : Prop := ReflTransGen P.Step (initial t) s

omit [DecidableEq ι] in
/-- One statement of a call that has the store for itself. -/
def Runs (c : ι) (at₁ at₂ : Λ × σ) : Prop :=
  ∃ run, P.next c at₁.1 = .inl run ∧ run at₁.2 = .ok at₂

/-- The call, run alone to its commit. -/
def Executes (c : ι) (t : σ) (r : ρ) (t' : σ) : Prop :=
  ∃ place, ReflTransGen (P.Runs c) (P.entry c, t) (place, t') ∧ P.next c place = .inr r

/-- The calls of a log, run one after another. -/
inductive Serial (t₀ : σ) : List (ι × ρ) → σ → Prop
  | nil : Serial t₀ [] t₀
  | snoc {log : List (ι × ρ)} {t t' : σ} {c : ι} {r : ρ} (hlog : Serial t₀ log t)
      (hc : P.Executes c t r t') : Serial t₀ (log ++ [(c, r)]) t'

/-- How a state stands to the calls that have committed. -/
structure Serialized (t₀ : σ) (log : List (ι × ρ)) (s : State ι σ Λ ε ρ) : Prop where
  serial : P.Serial t₀ log s.stored
  nodup : (log.map Prod.fst).Nodup
  returned : ∀ c r, s.phase c = .returned (.ok r) ↔ (c, r) ∈ log
  /-- An open transaction has worked on what is stored. -/
  working : ∀ c place w, s.phase c = .inTransaction place w →
    ReflTransGen (P.Runs c) (P.entry c, s.stored) (place, w)
  single : ∀ c d place w place' w', s.phase c = .inTransaction place w →
    s.phase d = .inTransaction place' w' → c = d

variable {P} {t₀ t t' : σ} {log new : List (ι × ρ)} {s s' : State ι σ Λ ε ρ} {c : ι} {r : ρ}

omit [DecidableEq ι] in
lemma Serial.append (h : P.Serial t₀ log t) (h' : P.Serial t new t') :
    P.Serial t₀ (log ++ new) t' := by
  induction h' with
  | nil => rwa [List.append_nil]
  | snoc _ hc ih =>
    rw [← List.append_assoc]
    exact ih.snoc hc

omit [DecidableEq ι] in
lemma serialized_initial : P.Serialized t₀ [] (initial t₀) where
  serial := .nil
  nodup := List.nodup_nil
  returned c r := iff_of_false (fun h => by cases h) List.not_mem_nil
  working c place w h := by cases h
  single c d place w place' w' h := by cases h

/-- A call that has not returned a result moves without committing. -/
lemma Serialized.move {p : Phase σ Λ ε ρ} (hs : P.Serialized t₀ log s)
    (hbefore : ∀ r, s.phase c ≠ .returned (.ok r)) (hafter : ∀ r, p ≠ .returned (.ok r))
    (hworking : ∀ place w, p = .inTransaction place w →
      ReflTransGen (P.Runs c) (P.entry c, s.stored) (place, w) ∧
        ∀ d place' w', s.phase d = .inTransaction place' w' → d = c) :
    P.Serialized t₀ log (s.setPhase c p) where
  serial := hs.serial
  nodup := hs.nodup
  returned d r := by
    rw [← hs.returned d r]
    by_cases hd : d = c
    · subst hd
      rw [State.setPhase_self]
      exact iff_of_false (hafter r) (hbefore r)
    · rw [State.setPhase_of_ne hd]
  working d place w h := by
    by_cases hd : d = c
    · subst hd
      rw [State.setPhase_self] at h
      exact (hworking place w h).1
    · rw [State.setPhase_of_ne hd] at h
      exact hs.working d place w h
  single d d' place w place' w' h h' := by
    by_cases hd : d = c <;> by_cases hd' : d' = c
    · rw [hd, hd']
    · rw [hd, State.setPhase_self] at h
      rw [State.setPhase_of_ne hd'] at h'
      rw [hd, (hworking place w h).2 d' place' w' h']
    · rw [State.setPhase_of_ne hd] at h
      rw [hd', State.setPhase_self] at h'
      rw [hd', (hworking place' w' h').2 d place w h]
    · rw [State.setPhase_of_ne hd] at h
      rw [State.setPhase_of_ne hd'] at h'
      exact hs.single d d' place w place' w' h h'

/-- A call that fails leaves the log alone. -/
lemma Serialized.fail (hs : P.Serialized t₀ log s) (e : ε)
    (hbefore : ∀ r, s.phase c ≠ .returned (.ok r)) :
    P.Serialized t₀ log (s.setPhase c (.returned (.error e))) := by
  refine hs.move hbefore (fun r h => ?_) fun place w h => ?_
  all_goals cases h

lemma Serialized.commit {place : Λ} {w : σ} (hs : P.Serialized t₀ log s)
    (hc : s.phase c = .inTransaction place w) (hnext : P.next c place = .inr r) :
    P.Serialized t₀ (log ++ [(c, r)])
      ({ s with stored := w }.setPhase c (.returned (.ok r))) := by
  have hfirst : ∀ r', (c, r') ∉ log := fun r' hmem => by
    rw [← hs.returned, hc] at hmem
    cases hmem
  have hclosed : ∀ d place' w', ({ s with stored := w }.setPhase c (.returned (.ok r))).phase d ≠
      .inTransaction place' w' := by
    intro d place' w' hd
    by_cases hdc : d = c
    · rw [hdc, State.setPhase_self] at hd
      cases hd
    · rw [State.setPhase_of_ne hdc] at hd
      exact hdc (hs.single d c place' w' place w hd hc)
  constructor
  · exact hs.serial.snoc ⟨place, hs.working c place w hc, hnext⟩
  · rw [List.map_append]
    refine hs.nodup.append (List.nodup_singleton c) (List.disjoint_singleton.mpr ?_)
    intro hmem
    obtain ⟨⟨c', r'⟩, hlog, hc'⟩ := List.mem_map.mp hmem
    obtain rfl : c' = c := hc'
    exact hfirst r' hlog
  · intro d r'
    rw [List.mem_append, List.mem_singleton, Prod.mk.injEq]
    by_cases hd : d = c
    · subst hd
      rw [State.setPhase_self, Phase.returned.injEq, Except.ok.injEq]
      exact ⟨fun h => Or.inr ⟨rfl, h.symm⟩, fun h => (h.resolve_left (hfirst r')).2.symm⟩
    · rw [State.setPhase_of_ne hd]
      exact (hs.returned d r').trans ⟨Or.inl, fun h => h.resolve_right fun h => hd h.1⟩
  · exact fun d place' w' hd => absurd hd (hclosed d place' w')
  · exact fun d _ place' w' _ _ hd => absurd hd (hclosed d place' w')

/-- **One step**: the store and the log stay as they are, or the call that commits adds to both. -/
lemma Serialized.step (hs : P.Serialized t₀ log s) (h : P.Step s s') :
    ∃ new, P.Serialized t₀ (log ++ new) s' ∧ P.Serial s.stored new s'.stored := by
  have keep {c : ι} {p : Phase σ Λ ε ρ} (hp : P.Serialized t₀ log (s.setPhase c p)) :
      ∃ new, P.Serialized t₀ (log ++ new) (s.setPhase c p) ∧ P.Serial s.stored new s.stored :=
    ⟨[], by rwa [List.append_nil], .nil⟩
  cases h with
  | @begin c hc hfree =>
    refine keep (hs.move (fun r h => ?_) (fun r h => ?_) fun place w h => ?_)
    · rw [hc] at h
      cases h
    · cases h
    · cases h
      exact ⟨.refl, fun d place' w' hd => absurd hd (hfree d place' w')⟩
  | refuse e hc =>
    refine keep (hs.fail e fun r h => ?_)
    rw [hc] at h
    cases h
  | @statement c place place' working working' run hc hnext hrun =>
    refine keep (hs.move (fun r h => ?_) (fun r h => ?_) fun _ _ h => ?_)
    · rw [hc] at h
      cases h
    · cases h
    · cases h
      exact ⟨(hs.working _ _ _ hc).tail ⟨run, hnext, hrun⟩,
        fun d _ _ hd => hs.single d c _ _ _ _ hd hc⟩
  | rollback e hc =>
    refine keep (hs.fail e fun r h => ?_)
    rw [hc] at h
    cases h
  | @commit c place w r hc hnext =>
    exact ⟨_, hs.commit hc hnext,
      Serial.snoc .nil ⟨place, hs.working c place w hc, hnext⟩⟩

/-- **Every interleaving is serial**: what a run adds to the store is the work of the calls that
return a result in it, each run alone, in the order of their commits. -/
theorem Serialized.run (hs : P.Serialized t₀ log s) (h : ReflTransGen P.Step s s') :
    ∃ new, P.Serialized t₀ (log ++ new) s' ∧ P.Serial s.stored new s'.stored := by
  induction h with
  | refl => exact ⟨[], by rwa [List.append_nil], .nil⟩
  | tail _ hstep ih =>
    obtain ⟨new, hnew, hserial⟩ := ih
    obtain ⟨new', hnew', hserial'⟩ := hnew.step hstep
    exact ⟨new ++ new', by rwa [← List.append_assoc], hserial.append hserial'⟩

theorem serializable (h : P.Reachable t₀ s) :
    ∃ log, P.Serialized t₀ log s ∧ P.Serial t₀ log s.stored :=
  serialized_initial.run h

/-- A call that finds no transaction open can run to its commit. -/
lemma Reachable.execute (h : P.Reachable t₀ s) (hc : s.phase c = .called)
    (hfree : ∀ d place working, s.phase d ≠ .inTransaction place working)
    (hexec : P.Executes c s.stored r t') :
    P.Reachable t₀ ({ s with stored := t' }.setPhase c (.returned (.ok r))) := by
  obtain ⟨place, hruns, hnext⟩ := hexec
  have hopen : ∀ p : Λ × σ, ReflTransGen (P.Runs c) (P.entry c, s.stored) p →
      P.Reachable t₀ (s.setPhase c (.inTransaction p.1 p.2)) := by
    intro p hp
    induction hp with
    | refl => exact h.tail (.begin hc hfree)
    | tail _ hrun ih =>
      obtain ⟨run, hinl, hok⟩ := hrun
      have hstep := ih.tail (.statement State.setPhase_self hinl hok)
      rwa [State.setPhase_setPhase] at hstep
  have hstep : P.Reachable t₀ _ := (hopen _ hruns).tail (.commit State.setPhase_self hnext)
  simpa only [State.setPhase, Function.update_idem] using hstep

end Program

end Transactions

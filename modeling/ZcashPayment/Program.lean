import Mathlib.Tactic.Common

/-!
Programs that may stop early, and their pre- and postconditions.

A program runs from a state and either returns a value or stops with a reason; both ways it
leaves the state it has reached. A triple therefore has two postconditions, one for the
states a value is returned in and one for the states the program stops in. A stop undoes
nothing: whatever was written before it stays.
-/

namespace ZcashPayment

/-- A program over states `σ` that returns an `α` or stops with an `ε`. -/
def Prog (σ ε α : Type) : Type := σ → Except ε α × σ

namespace Prog

variable {σ ε α β : Type}

instance : Monad (Prog σ ε) where
  pure a := fun s => (.ok a, s)
  bind m k := fun s => match m s with
    | (.ok a, s') => k a s'
    | (.error e, s') => (.error e, s')

/-- Stop here. -/
def stop (e : ε) : Prog σ ε α := fun s => (.error e, s)

/-- The current state. -/
def get : Prog σ ε σ := fun s => (.ok s, s)

/-- Run `m` from the states of `P`: it returns into `Q` or stops in `E`. -/
def Triple (P : σ → Prop) (m : Prog σ ε α) (Q : α → σ → Prop) (E : ε → σ → Prop) : Prop :=
  ∀ s, P s → match m s with
    | (.ok a, s') => Q a s'
    | (.error e, s') => E e s'

variable {P P' : σ → Prop} {Q Q' : α → σ → Prop} {E E' : ε → σ → Prop} {m : Prog σ ε α}

lemma Triple.returns (h : Triple P m Q E) {s s' : σ} {a : α} (hs : P s)
    (hm : m s = (.ok a, s')) : Q a s' := by
  have := h s hs
  rwa [hm] at this

lemma Triple.stops (h : Triple P m Q E) {s s' : σ} {e : ε} (hs : P s)
    (hm : m s = (.error e, s')) : E e s' := by
  have := h s hs
  rwa [hm] at this

/-- Whatever the outcome, when both postconditions say the same of the state. -/
lemma Triple.final {I : σ → Prop} (h : Triple P m (fun _ => I) (fun _ => I)) {s : σ}
    (hs : P s) : I (m s).2 := by
  have := h s hs
  rcases hm : m s with ⟨_ | _, s'⟩ <;> rw [hm] at this <;> exact this

lemma Triple.pure {a : α} (h : ∀ s, P s → Q a s) : Triple P (Pure.pure a) Q E :=
  fun s hs => h s hs

lemma Triple.stop {e : ε} (h : ∀ s, P s → E e s) : Triple P (stop e : Prog σ ε α) Q E :=
  fun s hs => h s hs

lemma Triple.get {Q : σ → σ → Prop} (h : ∀ s, P s → Q s s) : Triple P Prog.get Q E :=
  fun s hs => h s hs

/-- **Sequencing**: what the first program returns into is where the second one starts. -/
lemma Triple.bind {R : α → σ → Prop} {Q : β → σ → Prop} {k : α → Prog σ ε β}
    (hm : Triple P m R E) (hk : ∀ a, Triple (R a) (k a) Q E) : Triple P (m >>= k) Q E := by
  intro s hs
  have h := hm s hs
  show match (match m s with
    | (.ok a, s') => k a s'
    | (.error e, s') => (.error e, s') : Except ε β × σ) with
    | (.ok b, s') => Q b s'
    | (.error e, s') => E e s'
  rcases hr : m s with ⟨e | a, s'⟩ <;> rw [hr] at h
  · exact h
  · exact hk a s' h

lemma Triple.consequence (h : Triple P m Q E) (hP : ∀ s, P' s → P s)
    (hQ : ∀ a s, Q a s → Q' a s) (hE : ∀ e s, E e s → E' e s) : Triple P' m Q' E' := by
  intro s hs
  have := h s (hP s hs)
  rcases hm : m s with ⟨e | a, s'⟩ <;> rw [hm] at this
  · exact hE e s' this
  · exact hQ a s' this

lemma Triple.pre (h : Triple P m Q E) (hP : ∀ s, P' s → P s) : Triple P' m Q E :=
  h.consequence hP (fun _ _ h => h) (fun _ _ h => h)

lemma Triple.post (h : Triple P m Q E) (hQ : ∀ a s, Q a s → Q' a s) : Triple P m Q' E :=
  h.consequence (fun _ h => h) hQ (fun _ _ h => h)

/-- A fact that does not depend on the state can be taken out of the precondition. -/
lemma Triple.of_pure {φ : Prop} (h : φ → Triple P m Q E) :
    Triple (fun s => φ ∧ P s) m Q E :=
  fun s hs => h hs.1 s hs.2

lemma Triple.ite {c : Prop} [Decidable c] {m₁ m₂ : Prog σ ε α}
    (h₁ : c → Triple P m₁ Q E) (h₂ : ¬c → Triple P m₂ Q E) :
    Triple P (if c then m₁ else m₂) Q E := by
  split_ifs with h
  exacts [h₁ h, h₂ h]

end Prog

end ZcashPayment

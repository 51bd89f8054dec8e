import Mathlib.Data.Int.Notation
import Mathlib.Data.List.Forall2
import Mathlib.Data.List.Nodup
import Mathlib.Logic.Function.Basic
import Mathlib.Tactic.Common

/-!
Tables whose columns grow.

A table has the columns every version of it has, as a type of rows, and the columns later
versions added, by name. `ALTER TABLE … ADD COLUMN` gives every row the default; a rebuild
copies the columns it lists. `Extends` says that a table holds at least what an older one held.
-/

namespace ZcashPayment

/-- A value in a column that not every version has. -/
inductive Cell
  | null
  | integer (n : ℤ)
  | text (s : String)
  deriving DecidableEq, Repr

structure SqlTable (α : Type*) where
  /-- The later columns the table has. -/
  columns : List String
  rows : List (α × (String → Cell))

namespace SqlTable

variable {α : Type*} {t t' t'' : SqlTable α} {name : String} {default : Cell}

/-- `ALTER TABLE … ADD COLUMN` -/
def addColumn (t : SqlTable α) (name : String) (default : Cell) : SqlTable α where
  columns := t.columns ++ [name]
  rows := t.rows.map fun r => (r.1, Function.update r.2 name default)

/-- Add the column where `PRAGMA table_info` does not list it. -/
def ensureColumn (t : SqlTable α) (name : String) (default : Cell) : SqlTable α :=
  if name ∈ t.columns then t else t.addColumn name default

/-- `INSERT INTO … SELECT`, with the later columns that are listed. -/
def copy (t : SqlTable α) (columns : List String) : SqlTable α where
  columns := columns
  rows := t.rows.map fun r => (r.1, fun c => if c ∈ columns then r.2 c else .null)

/-- The rows of `t` are rows of `t'`, in their order and with all values they had. -/
structure Extends (t t' : SqlTable α) : Prop where
  columns : t.columns ⊆ t'.columns
  rows : List.Forall₂ (fun r r' => r'.1 = r.1 ∧ ∀ c ∈ t.columns, r'.2 c = r.2 c) t.rows t'.rows

lemma Extends.refl (t : SqlTable α) : t.Extends t :=
  ⟨fun _ h => h, List.forall₂_same.mpr fun _ _ => ⟨rfl, fun _ _ => rfl⟩⟩

lemma Extends.trans (h : t.Extends t') (h' : t'.Extends t'') : t.Extends t'' := by
  refine ⟨fun c hc => h'.columns (h.columns hc), ?_⟩
  have hcols := h.columns
  have hrows := h.rows
  have hrows' := h'.rows
  generalize t.rows = rows at hrows ⊢
  generalize t'.rows = rows' at hrows hrows'
  generalize t''.rows = rows'' at hrows' ⊢
  induction hrows generalizing rows'' with
  | nil =>
    cases hrows'
    exact .nil
  | cons hr _ ih =>
    cases hrows' with
    | cons hr' htail =>
      exact .cons ⟨hr'.1.trans hr.1, fun c hc => (hr'.2 c (hcols hc)).trans (hr.2 c hc)⟩
        (ih _ htail)

lemma Extends.map_fst (h : t.Extends t') : t'.rows.map Prod.fst = t.rows.map Prod.fst := by
  have hrows := h.rows
  generalize t.rows = rows at hrows ⊢
  generalize t'.rows = rows' at hrows ⊢
  induction hrows with
  | nil => rfl
  | cons hr _ ih => rw [List.map_cons, List.map_cons, ih, hr.1]

/-- A table with its rows changed one by one, outside the columns of the older one. -/
lemma extends_of_map {columns : List String} {f : α × (String → Cell) → String → Cell}
    (hc : t.columns ⊆ columns) (hf : ∀ r ∈ t.rows, ∀ c ∈ t.columns, f r c = r.2 c) :
    t.Extends ⟨columns, t.rows.map fun r => (r.1, f r)⟩ := by
  refine ⟨hc, List.forall₂_map_right_iff.mpr (List.forall₂_same.mpr fun r hr => ⟨rfl, ?_⟩)⟩
  exact hf r hr

lemma addColumn_extends (h : name ∉ t.columns) : t.Extends (t.addColumn name default) :=
  extends_of_map (List.subset_append_left _ _) fun r _ c hc => by
    rw [Function.update_of_ne (ne_of_mem_of_not_mem hc h)]

lemma ensureColumn_extends (t : SqlTable α) (name : String) (default : Cell) :
    t.Extends (t.ensureColumn name default) := by
  unfold ensureColumn
  split_ifs with h
  · exact Extends.refl t
  · exact addColumn_extends h

lemma copy_extends {columns : List String} (h : t.columns ⊆ columns) :
    t.Extends (t.copy columns) :=
  extends_of_map h fun _ _ _ hc => if_pos (h hc)

lemma mem_ensureColumn : name ∈ (t.ensureColumn name default).columns := by
  unfold ensureColumn
  split_ifs with h
  · exact h
  · exact List.mem_append_right _ (List.mem_singleton_self name)

lemma ensureColumn_of_mem (h : name ∈ t.columns) : t.ensureColumn name default = t :=
  if_pos h

/-- A new column holds its default everywhere. -/
lemma ensureColumn_default (h : name ∉ t.columns) :
    ∀ r ∈ (t.ensureColumn name default).rows, r.2 name = default := by
  simp only [ensureColumn, h, if_false, addColumn, List.mem_map]
  rintro _ ⟨r, -, rfl⟩
  exact Function.update_self ..

/-- A column holds in all rows of an extension what it held before. -/
lemma Extends.forall_column (h : t.Extends t') (hc : name ∈ t.columns) {p : Cell → Prop} :
    (∀ r ∈ t'.rows, p (r.2 name)) ↔ ∀ r ∈ t.rows, p (r.2 name) := by
  have hrows := h.rows
  generalize t.rows = rows at hrows ⊢
  generalize t'.rows = rows' at hrows ⊢
  induction hrows with
  | nil => exact Iff.rfl
  | cons hr _ ih =>
    rw [List.forall_mem_cons, List.forall_mem_cons, hr.2 name hc]
    exact and_congr_right fun _ => ih

end SqlTable

end ZcashPayment

import Mathlib.Tactic.Common
import Mathlib.Data.List.Nodup
import Mathlib.Data.List.Sort
import Mathlib.Data.List.Dedup

/-!
Keyed tables.

A table is a list of rows no two of which share a key, so a row is found by its key and a
change of the other columns keeps the table well formed. The two writes are the two a
relational store offers: `update` rewrites every row in place, `upsert` inserts a row or
merges it into the row that already has its key.
-/

namespace ZcashPayment

universe u v

/-- Rows with pairwise different keys. -/
structure Table {α : Type u} {κ : Type v} (key : α → κ) where
  rows : List α
  nodup : (rows.map key).Nodup

namespace Table

variable {α : Type u} {κ : Type v} {key : α → κ}

def empty : Table key := ⟨[], List.nodup_nil⟩

/-- Change columns other than the key, row by row. -/
def update (t : Table key) (f : α → α) (hf : ∀ a, key (f a) = key a) : Table key where
  rows := t.rows.map f
  nodup := by
    have : t.rows.map (key ∘ f) = t.rows.map key := List.map_congr_left fun a _ => hf a
    rw [List.map_map, this]
    exact t.nodup

/-- Add a row whose key is new. -/
def insert (t : Table key) (a : α) (h : key a ∉ t.rows.map key) : Table key where
  rows := t.rows ++ [a]
  nodup := by
    rw [List.map_append]
    exact t.nodup.append (List.nodup_singleton _) (by simpa using h)

lemma eq_of_key {t : Table key} {a b : α} (ha : a ∈ t.rows) (hb : b ∈ t.rows)
    (h : key a = key b) : a = b :=
  List.inj_on_of_nodup_map t.nodup ha hb h

@[simp] lemma rows_empty : (empty : Table key).rows = [] := rfl

@[simp] lemma rows_update {t : Table key} (f : α → α) (hf : ∀ a, key (f a) = key a) :
    (t.update f hf).rows = t.rows.map f := rfl

/-- An update that changes no row leaves the table as it is. -/
lemma update_eq_self {t : Table key} {f : α → α} (hf : ∀ a, key (f a) = key a)
    (h : ∀ a ∈ t.rows, f a = a) : t.update f hf = t := by
  obtain ⟨rows, nodup⟩ := t
  simp only [update, mk.injEq]
  exact (List.map_congr_left h).trans (List.map_id rows)

lemma keys_update {t : Table key} (f : α → α) (hf : ∀ a, key (f a) = key a) :
    (t.update f hf).rows.map key = t.rows.map key := by
  rw [rows_update, List.map_map]
  exact List.map_congr_left fun a _ => hf a

/-- Tables with the same keys in the same order agree row by row. -/
lemma map_rows_congr {β : Type*} {t t' : Table key} {f g : α → β}
    (hkeys : t'.rows.map key = t.rows.map key)
    (h : ∀ a ∈ t.rows, ∀ a' ∈ t'.rows, key a' = key a → f a' = g a) :
    t'.rows.map f = t.rows.map g := by
  have hall : ∀ l l' : List α, l'.map key = l.map key →
      (∀ a ∈ l, ∀ a' ∈ l', key a' = key a → f a' = g a) → l'.map f = l.map g := by
    intro l
    induction l with
    | nil =>
      intro l' hkeys _
      rw [List.map_eq_nil_iff.mp hkeys]
      rfl
    | cons a l ih =>
      intro l' hkeys h
      obtain ⟨a', l', rfl, hkey, hkeys⟩ := List.map_eq_cons_iff.mp hkeys
      have hrest := ih l' hkeys fun b hb b' hb' =>
        h b (List.mem_cons_of_mem a hb) b' (List.mem_cons_of_mem a' hb')
      rw [List.map_cons, List.map_cons, h a List.mem_cons_self a' List.mem_cons_self hkey, hrest]
  exact hall _ _ hkeys h

lemma rows_insert {t : Table key} {a : α} (h : key a ∉ t.rows.map key) :
    (t.insert a h).rows = t.rows ++ [a] := rfl

variable [DecidableEq κ]

/-- The row with the key `k`. -/
def find? (t : Table key) (k : κ) : Option α := t.rows.find? fun a => key a = k

/-- Merge `a` into the row with its key, or add it when there is none. -/
def upsert (t : Table key) (a : α) (merge : α → α) (hm : ∀ b, key (merge b) = key b) :
    Table key :=
  if h : key a ∈ t.rows.map key then
    t.update (fun b => if key b = key a then merge b else b)
      (fun b => by split_ifs; exacts [hm b, rfl])
  else t.insert a h

variable {t : Table key} {a b : α} {k : κ}

lemma key_of_find? (h : t.find? k = some a) : key a = k := by
  simpa using List.find?_some h

lemma mem_of_find? (h : t.find? k = some a) : a ∈ t.rows := List.mem_of_find?_eq_some h

lemma find?_eq_some_iff : t.find? k = some a ↔ a ∈ t.rows ∧ key a = k := by
  constructor
  · intro h
    exact ⟨mem_of_find? h, key_of_find? h⟩
  · rintro ⟨ha, hk⟩
    rcases hf : t.find? k with _ | b
    · exact absurd hk (by simpa using List.find?_eq_none.mp hf a ha)
    · rw [eq_of_key (mem_of_find? hf) ha ((key_of_find? hf).trans hk.symm)]

lemma find?_of_mem (h : a ∈ t.rows) : t.find? (key a) = some a :=
  find?_eq_some_iff.mpr ⟨h, rfl⟩

lemma find?_eq_none_iff : t.find? k = none ↔ k ∉ t.rows.map key := by
  simp [find?, List.find?_eq_none]

@[simp] lemma find?_empty : (empty : Table key).find? k = none := rfl

lemma find?_update (f : α → α) (hf : ∀ a, key (f a) = key a) :
    (t.update f hf).find? k = (t.find? k).map f := by
  simp only [find?, update, List.find?_map]
  congr 2
  funext b
  simp [hf]

lemma find?_insert (h : key a ∉ t.rows.map key) :
    (t.insert a h).find? k = if k = key a then some a else t.find? k := by
  simp only [find?, insert, List.find?_append]
  by_cases hk : k = key a
  · subst hk
    have hn : t.find? (key a) = none := find?_eq_none_iff.mpr h
    rw [find?] at hn
    simp [hn]
  · have hk' : ¬ key a = k := fun h' => hk h'.symm
    simp [hk, hk']

/-- **What an upsert stores**: only the row with the key of `a` changes. -/
lemma find?_upsert (merge : α → α) (hm : ∀ b, key (merge b) = key b) :
    (t.upsert a merge hm).find? k =
      if k = key a then some ((t.find? k).elim a merge) else t.find? k := by
  unfold upsert
  split_ifs with h hk hk
  · subst hk
    rw [find?_update]
    obtain ⟨b, hb⟩ : ∃ b, t.find? (key a) = some b := by
      rcases hf : t.find? (key a) with _ | b
      · exact absurd h (find?_eq_none_iff.mp hf)
      · exact ⟨b, rfl⟩
    simp [hb, key_of_find? hb]
  · rw [find?_update]
    rcases hf : t.find? k with _ | b
    · rfl
    · have hb : key b ≠ key a := by rw [key_of_find? hf]; exact hk
      simp [hb]
  · subst hk
    rw [find?_insert, find?_eq_none_iff.mpr h]
    simp
  · rw [find?_insert, if_neg hk]

/-- An upsert of a known key adds no row. -/
lemma keys_upsert (merge : α → α) (hm : ∀ b, key (merge b) = key b)
    (h : key a ∈ t.rows.map key) : (t.upsert a merge hm).rows.map key = t.rows.map key := by
  unfold upsert
  rw [dif_pos h, keys_update]

lemma mem_upsert_iff (merge : α → α) (hm : ∀ b, key (merge b) = key b) :
    b ∈ (t.upsert a merge hm).rows ↔
      (b ∈ t.rows ∧ key b ≠ key a) ∨ b = (t.find? (key a)).elim a merge := by
  have hk : key ((t.find? (key a)).elim a merge) = key a := by
    rcases hf : t.find? (key a) with _ | c
    · rfl
    · simpa [hm] using key_of_find? hf
  constructor
  · intro hb
    have hf := find?_of_mem hb
    rw [find?_upsert] at hf
    split_ifs at hf with h
    · right
      rw [h] at hf
      exact (Option.some.inj hf).symm
    · exact Or.inl ⟨mem_of_find? hf, h⟩
  · rintro (⟨hb, hne⟩ | rfl)
    · have hf : (t.upsert a merge hm).find? (key b) = some b := by
        rw [find?_upsert, if_neg hne, find?_of_mem hb]
      exact mem_of_find? hf
    · have hf : (t.upsert a merge hm).find? (key a) = some ((t.find? (key a)).elim a merge) := by
        rw [find?_upsert, if_pos rfl]
      exact mem_of_find? hf

end Table

end ZcashPayment

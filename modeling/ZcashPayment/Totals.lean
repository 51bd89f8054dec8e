import Mathlib.Algebra.BigOperators.Group.List.Basic
import Mathlib.Algebra.Order.BigOperators.Group.List
import Mathlib.Algebra.Ring.Int.Defs
import ZcashPayment.Schema

/-!
The totals of an address, computed from its receipt rows.

`recomputeAddressTotals` is the one place where the stored total and the array
`received_by_confirmations` change, and `applyRequiredConfirmations` the one place where the
array alone is rebuilt. Both read only a small part of a receipt row: its state, its
eligibility, the height it was mined at and its value. Two ledgers that agree on that part
of the rows of an address give it the same totals.
-/

namespace ZcashPayment

/-! ### What the queries sum -/

/-- `SUM(value_zat)` over the rows a query selects, `0` for none. -/
def sumZat (rows : List ReceiptRow) (p : ReceiptRow → Bool) : ℤ :=
  ((rows.filter p).map fun r => (r.valueZat : ℤ)).sum

/-- `address_id = ? AND receipt_state = 'active'` -/
def activeAt (a : ℕ) (r : ReceiptRow) : Bool := r.addressId = a && r.receiptState = .active

def activeTotalZat (rows : List ReceiptRow) (a : ℕ) : ℤ := sumZat rows (activeAt a)

/-- `address_id = ? AND receipt_state = 'active' AND eligible_for_webhook = 1` -/
def counted (a : ℕ) (r : ReceiptRow) : Bool :=
  r.addressId = a && (r.receiptState = .active && r.eligibleForWebhook)

def eligibleTotalZat (rows : List ReceiptRow) (a : ℕ) : ℤ := sumZat rows (counted a)

/-- The rows a finality query selects: counted, mined, at or below the cutoff. -/
def finalized (a : ℕ) (cutoff : ℤ) (r : ReceiptRow) : Bool :=
  counted a r && (r.receiptKind = .mined && r.minedHeight ≤ cutoff)

def querySumWithCutoff (rows : List ReceiptRow) (a : ℕ) (cutoff : ℤ) : ℤ :=
  sumZat rows (finalized a cutoff)

def finalizedThroughHeight (rows : List ReceiptRow) (a : ℕ) (cutoff : ℤ) : ℤ :=
  ((rows.filter (finalized a cutoff)).map ReceiptRow.minedHeight).max?.getD 0

def finalizedCutoffHeight (tip : ℤ) (finality : ℕ) : ℤ :=
  if tip ≥ finality then tip - finality + 1 else 0

/-- `CASE WHEN tip >= mined_height THEN tip - mined_height + 1 ELSE 0 END` -/
def depthAt (tip height : ℤ) : ℤ := if tip ≥ height then tip - height + 1 else 0

/-- The depth the array counts a row at: `0` for a mempool row. -/
def rowDepth (tip : ℤ) (r : ReceiptRow) : ℤ :=
  if r.receiptKind = .mined then depthAt tip r.minedHeight else 0

/-- Element `i` sums the counted rows with at least `i` confirmations at `tip`; the loop adds
each row to every slot up to the depth it has reached. -/
def receivedByConfirmationsZat (rows : List ReceiptRow) (a : ℕ) (tip : ℤ)
    (requiredConfirmations : Option ℕ) : Option (List ℤ) :=
  requiredConfirmations.map fun required =>
    (rows.filter (counted a)).foldl
      (fun byDepth r =>
        let reached := min (rowDepth tip r).toNat required
        byDepth.mapIdx fun i slot => if i ≤ reached then slot + r.valueZat else slot)
      (List.replicate (required + 1) 0)

/-! ### Writing them back -/

def Db.storedRequiredConfirmations (db : Db) : Option ℕ :=
  db.metadata.bind ServiceMetadata.requiredConfirmations

/-- One turn of the loop over the affected addresses. -/
def recomputed (db : Db) (tip : ℤ) (finality : ℕ) (now : Timestamp) (dirtyReasonLabel : String)
    (dirtySince : ℕ → Option ℤ) (previous : AddressTotals) : AddressTotals :=
  let a := previous.addressId
  let rows := db.receipts.rows
  let cutoff := finalizedCutoffHeight tip finality
  let eligibleTotal := eligibleTotalZat rows a
  let finalizedTotal := querySumWithCutoff rows a cutoff
  let byConfirmations :=
    receivedByConfirmationsZat rows a tip db.storedRequiredConfirmations
  let changed := previous.currentTotalZat ≠ eligibleTotal ∨
    previous.receivedByConfirmations ≠ byConfirmations
  { previous with
    finalizedThroughHeight := finalizedThroughHeight rows a cutoff
    finalizedTotalZat := finalizedTotal
    recentTotalZat := eligibleTotal - finalizedTotal
    currentTotalZat := eligibleTotal
    lastComputedTipHeight := tip
    -- An unchanged total keeps its dirty state: a pending notification is not dropped.
    dirtyState := if changed then .dirty else previous.dirtyState
    dirtyReason := if changed then some dirtyReasonLabel else previous.dirtyReason
    dirtySinceHeight := if changed then dirtySince a else previous.dirtySinceHeight
    stateVersion := if changed then previous.stateVersion + 1 else previous.stateVersion
    lastChangedAt := now
    receivedByConfirmations := byConfirmations }

/-- What fails the turn of an address, if anything does. SQLite's `SUM` fails where it leaves the
`i64`s. The active rows are summed first and no value is negative, so a later sum, which is over
some of them, does not fail. -/
def recomputeError (db : Db) (a : ℕ) : Option AppError :=
  if (db.addressTotals.find? a).isNone then some (.database "Query returned no rows")
  else if activeTotalZat db.receipts.rows a > i64Max then some (.database "integer overflow")
  else none

def recomputeAddressTotals (db : Db) (addressIds : List ℕ) (tip : ℤ) (finality : ℕ)
    (now : Timestamp) (dirtyReasonLabel : String) (dirtySince : ℕ → Option ℤ) :
    Except AppError Db :=
  match addressIds.findSome? (recomputeError db) with
  | some error => .error error
  | none =>
    .ok { db with
      addressTotals := db.addressTotals.update
        (fun t => if t.addressId ∈ addressIds then
          recomputed db tip finality now dirtyReasonLabel dirtySince t else t)
        (fun t => by split_ifs <;> rfl) }

/-- Store `REQUIRED_CONFIRMATIONS` and, when it changed, rebuild every array at the tip its
totals were computed at. No version moves and no address becomes dirty. -/
def applyRequiredConfirmations (db : Db) (requiredConfirmations : Option ℕ) : Db :=
  if db.storedRequiredConfirmations = requiredConfirmations then db
  else
    { db with
      metadata := db.metadata.map fun m => { m with requiredConfirmations }
      addressTotals := db.addressTotals.update
        (fun t => { t with
          receivedByConfirmations := receivedByConfirmationsZat db.receipts.rows t.addressId
            t.lastComputedTipHeight requiredConfirmations })
        (fun _ => rfl) }

/-! ### The part of a row that totals depend on -/

/-- State, eligibility, the height it was mined at, and value. -/
structure Core where
  state : ReceiptState
  eligible : Bool
  minedAt : Option ℤ
  valueZat : ℕ
  deriving DecidableEq

def core (r : ReceiptRow) : Core where
  state := r.receiptState
  eligible := r.eligibleForWebhook
  minedAt := if r.receiptKind = .mined then some r.minedHeight else none
  valueZat := r.valueZat

/-- The rows of an address, reduced to what its totals depend on. -/
def view (rows : List ReceiptRow) (a : ℕ) : List Core :=
  (rows.filter fun r => r.addressId = a).map core

lemma sumZat_eq_view (rows : List ReceiptRow) (a : ℕ) (q : Core → Bool) :
    sumZat rows (fun r => r.addressId = a && q (core r)) =
      (((view rows a).filter q).map fun c => (c.valueZat : ℤ)).sum := by
  unfold sumZat view
  rw [List.filter_map, List.map_map, List.filter_filter]
  congr 2
  exact List.filter_congr fun r _ => Bool.and_comm _ _

def Core.active (c : Core) : Bool := c.state = .active

def Core.counted (c : Core) : Bool := c.state = .active && c.eligible

def Core.finalized (cutoff : ℤ) (c : Core) : Bool :=
  c.counted && c.minedAt.any (· ≤ cutoff)

def Core.depth (tip : ℤ) (c : Core) : ℤ := c.minedAt.elim 0 (depthAt tip)

lemma counted_eq (a : ℕ) (r : ReceiptRow) :
    counted a r = (decide (r.addressId = a) && (core r).counted) := rfl

lemma finalized_eq (a : ℕ) (cutoff : ℤ) (r : ReceiptRow) :
    finalized a cutoff r = (decide (r.addressId = a) && (core r).finalized cutoff) := by
  unfold finalized Core.finalized
  rw [counted_eq, Bool.and_assoc]
  congr 2
  by_cases h : r.receiptKind = .mined <;> simp [core, h]

lemma rowDepth_eq (tip : ℤ) (r : ReceiptRow) : rowDepth tip r = (core r).depth tip := by
  unfold rowDepth Core.depth core
  split_ifs <;> rfl

lemma depthAt_nonneg (tip h : ℤ) : 0 ≤ depthAt tip h := by
  unfold depthAt
  split_ifs <;> omega

lemma rowDepth_nonneg (tip : ℤ) (r : ReceiptRow) : 0 ≤ rowDepth tip r := by
  unfold rowDepth
  split_ifs
  · exact depthAt_nonneg _ _
  · exact le_rfl

lemma sumZat_nonneg (rows : List ReceiptRow) (p : ReceiptRow → Bool) : 0 ≤ sumZat rows p := by
  refine List.sum_nonneg fun x hx => ?_
  obtain ⟨r, -, rfl⟩ := List.mem_map.mp hx
  exact Int.natCast_nonneg _

lemma sumZat_cons (r : ReceiptRow) (rows : List ReceiptRow) (p : ReceiptRow → Bool) :
    sumZat (r :: rows) p = (if p r then (r.valueZat : ℤ) else 0) + sumZat rows p := by
  unfold sumZat
  by_cases h : p r <;> simp [h]

/-- A selection that keeps every row with a value sums to no less. -/
lemma sumZat_le_of_pos (rows : List ReceiptRow) {p q : ReceiptRow → Bool}
    (h : ∀ r ∈ rows, 0 < r.valueZat → p r = true → q r = true) :
    sumZat rows p ≤ sumZat rows q := by
  induction rows with
  | nil => exact le_rfl
  | cons r rows ih =>
    have ih := ih fun r' hr' => h r' (List.mem_cons_of_mem r hr')
    have hr := h r (by simp)
    rw [sumZat_cons, sumZat_cons]
    rcases Nat.eq_zero_or_pos r.valueZat with h0 | hpos
    · rw [h0]
      split_ifs <;> omega
    · by_cases hp : p r
      · rw [if_pos hp, if_pos (hr hpos hp)]
        omega
      · rw [if_neg hp]
        split_ifs <;> omega

/-- A narrower selection sums to less. -/
lemma sumZat_le (rows : List ReceiptRow) {p q : ReceiptRow → Bool}
    (h : ∀ r ∈ rows, p r = true → q r = true) : sumZat rows p ≤ sumZat rows q :=
  sumZat_le_of_pos rows fun r hr _ => h r hr

/-- A selection that misses a row with a value sums to strictly less. -/
lemma sumZat_lt {rows : List ReceiptRow} {p q : ReceiptRow → Bool} {r : ReceiptRow}
    (h : ∀ r ∈ rows, p r = true → q r = true) (hr : r ∈ rows) (hq : q r = true) (hp : p r = false)
    (hpos : 0 < r.valueZat) : sumZat rows p < sumZat rows q := by
  induction rows with
  | nil => cases hr
  | cons r' rows ih =>
    have hrest := fun r' hr' => h r' (List.mem_cons_of_mem _ hr')
    rw [sumZat_cons, sumZat_cons]
    rcases List.mem_cons.mp hr with rfl | hmem
    · have := sumZat_le rows hrest
      simp only [hp, hq, Bool.false_eq_true, if_false, if_true]
      omega
    · have hlt := ih hrest hmem
      have hr' := h r' List.mem_cons_self
      by_cases hp' : p r'
      · rw [if_pos hp', if_pos (hr' hp')]
        omega
      · rw [if_neg hp']
        split_ifs <;> omega

/-- The sum of the counted rows of an address with at least `i` confirmations at `tip`. -/
def receivedAtDepth (rows : List ReceiptRow) (a : ℕ) (tip : ℤ) (i : ℕ) : ℤ :=
  sumZat rows fun r => counted a r && ((i : ℤ) ≤ rowDepth tip r)

lemma receivedAtDepth_zero (rows : List ReceiptRow) (a : ℕ) (tip : ℤ) :
    receivedAtDepth rows a tip 0 = eligibleTotalZat rows a := by
  unfold receivedAtDepth eligibleTotalZat
  congr 1
  funext r
  simp [rowDepth_nonneg]

lemma receivedAtDepth_anti (rows : List ReceiptRow) (a : ℕ) (tip : ℤ) {i j : ℕ} (h : i ≤ j) :
    receivedAtDepth rows a tip j ≤ receivedAtDepth rows a tip i := by
  refine sumZat_le rows fun r _ hr => ?_
  simp only [Bool.and_eq_true, decide_eq_true_eq] at hr ⊢
  exact ⟨hr.1, by omega⟩

/-- The loop of `receivedByConfirmationsZat`, started from any array. -/
lemma foldl_slots (tip : ℤ) (required : ℕ) (l : List ReceiptRow) (f : ℕ → ℤ) :
    l.foldl
      (fun byDepth r =>
        byDepth.mapIdx fun i slot =>
          if i ≤ min (rowDepth tip r).toNat required then slot + r.valueZat else slot)
      ((List.range (required + 1)).map f) =
    (List.range (required + 1)).map fun i =>
      f i + sumZat l fun r => decide ((i : ℤ) ≤ rowDepth tip r) := by
  induction l generalizing f with
  | nil => simp [sumZat]
  | cons r l ih =>
    have hstep : ((List.range (required + 1)).map f).mapIdx
          (fun i slot =>
            if i ≤ min (rowDepth tip r).toNat required then slot + (r.valueZat : ℤ) else slot) =
        (List.range (required + 1)).map fun i =>
          f i + if (i : ℤ) ≤ rowDepth tip r then (r.valueZat : ℤ) else 0 := by
      refine List.ext_getElem (by simp) fun i h1 h2 => ?_
      have hi : i ≤ required := by
        simp only [List.length_mapIdx, List.length_map, List.length_range] at h1
        omega
      have h0 := rowDepth_nonneg tip r
      have hiff : i ≤ min (rowDepth tip r).toNat required ↔ (i : ℤ) ≤ rowDepth tip r := by
        omega
      simp only [List.getElem_mapIdx, List.getElem_map, List.getElem_range, hiff]
      split_ifs <;> simp
    rw [List.foldl_cons, hstep, ih]
    refine List.map_congr_left fun i _ => ?_
    rw [sumZat_cons]
    simp only [decide_eq_true_eq]
    omega

/-- **What the array holds**: its elements are the sums per depth. -/
theorem receivedByConfirmationsZat_eq (rows : List ReceiptRow) (a : ℕ) (tip : ℤ) (n : ℕ) :
    receivedByConfirmationsZat rows a tip (some n) =
      some ((List.range (n + 1)).map (receivedAtDepth rows a tip)) := by
  have h := foldl_slots tip n (rows.filter (counted a)) fun _ => 0
  have h0 : (List.range (n + 1)).map (fun _ => (0 : ℤ)) = List.replicate (n + 1) 0 := by
    simp [List.map_const']
  rw [h0] at h
  simp only [receivedByConfirmationsZat, Option.map_some, h, zero_add]
  congr 2
  funext i
  unfold receivedAtDepth sumZat
  rw [List.filter_filter]
  congr 2
  exact List.filter_congr fun r _ => Bool.and_comm _ _

@[simp] lemma receivedByConfirmationsZat_none (rows : List ReceiptRow) (a : ℕ) (tip : ℤ) :
    receivedByConfirmationsZat rows a tip none = none := rfl

/-! ### Totals only see the view -/

variable {rows rows' : List ReceiptRow} {a : ℕ}

lemma sumZat_congr (h : view rows a = view rows' a) (q : Core → Bool) :
    sumZat rows (fun r => r.addressId = a && q (core r)) =
      sumZat rows' fun r => r.addressId = a && q (core r) := by
  rw [sumZat_eq_view, sumZat_eq_view, h]

lemma activeTotalZat_congr (h : view rows a = view rows' a) :
    activeTotalZat rows a = activeTotalZat rows' a :=
  sumZat_congr h Core.active

lemma eligibleTotalZat_congr (h : view rows a = view rows' a) :
    eligibleTotalZat rows a = eligibleTotalZat rows' a :=
  sumZat_congr h Core.counted

lemma querySumWithCutoff_congr (h : view rows a = view rows' a) (cutoff : ℤ) :
    querySumWithCutoff rows a cutoff = querySumWithCutoff rows' a cutoff := by
  unfold querySumWithCutoff
  rw [funext (finalized_eq a cutoff)]
  exact sumZat_congr h (Core.finalized cutoff)

lemma receivedAtDepth_congr (h : view rows a = view rows' a) (tip : ℤ) (i : ℕ) :
    receivedAtDepth rows a tip i = receivedAtDepth rows' a tip i := by
  have hp : (fun r => counted a r && decide ((i : ℤ) ≤ rowDepth tip r)) =
      fun r => decide (r.addressId = a) &&
        ((core r).counted && decide ((i : ℤ) ≤ (core r).depth tip)) := by
    funext r
    rw [counted_eq, rowDepth_eq, Bool.and_assoc]
  unfold receivedAtDepth
  rw [hp]
  exact sumZat_congr h fun c => c.counted && decide ((i : ℤ) ≤ c.depth tip)

lemma receivedByConfirmationsZat_congr (h : view rows a = view rows' a) (tip : ℤ)
    (n : Option ℕ) :
    receivedByConfirmationsZat rows a tip n = receivedByConfirmationsZat rows' a tip n := by
  cases n with
  | none => rfl
  | some n =>
    rw [receivedByConfirmationsZat_eq, receivedByConfirmationsZat_eq,
      funext (receivedAtDepth_congr h tip)]

end ZcashPayment

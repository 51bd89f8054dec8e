import ZcashPayment.Scan

/-!
The batches a plan leads to.

The downloads go from one batch to the next by `next_scan_batch`, starting right above the end
of the last one. The next start saturates at the largest `u32`, so below that tip the batches
tile the planned range, and at that tip the batch of the last height is planned again and again.
-/

namespace ZcashPayment

/-! ### One batch after the other -/

/-- `following_start`, and the batch planned from it. -/
def followingBatch (finalHeight catchUpBatchSize : ℕ) (batch : ScanBatch) : Option ScanBatch :=
  nextScanBatch (saturatingAdd batch.endHeight 1) finalHeight catchUpBatchSize

/-- The batch number `k` of the downloads that start with `first`. -/
def batchAt (finalHeight catchUpBatchSize : ℕ) (first : Option ScanBatch) : ℕ → Option ScanBatch
  | 0 => first
  | k + 1 => (batchAt finalHeight catchUpBatchSize first k).bind
      (followingBatch finalHeight catchUpBatchSize)

/-- The downloads that start with `first` are those of the list, and then end. -/
def Downloads (finalHeight catchUpBatchSize : ℕ) (first : Option ScanBatch)
    (batches : List ScanBatch) : Prop :=
  ∀ k, batchAt finalHeight catchUpBatchSize first k = batches[k]?

/-- Nonempty batches, each starting right above the end of the one before, from `lo` to `hi`. -/
def Tiles (hi : ℕ) : ℕ → List ScanBatch → Prop
  | lo, [] => hi < lo
  | lo, batch :: batches =>
    batch.startHeight = lo ∧ lo ≤ batch.endHeight ∧ batch.endHeight ≤ hi ∧
      Tiles hi (batch.endHeight + 1) batches

def ScanBatch.Covers (batch : ScanBatch) (h : ℕ) : Prop :=
  batch.startHeight ≤ h ∧ h ≤ batch.endHeight

variable {lo hi mid h k final size : ℕ} {first : Option ScanBatch} {batch : ScanBatch}
  {batches rest : List ScanBatch}

lemma batchAt_succ : batchAt final size first (k + 1) =
    batchAt final size (first.bind (followingBatch final size)) k := by
  induction k with
  | zero => rfl
  | succ k ih =>
    have hstep : batchAt final size first (k + 1 + 1) =
        (batchAt final size first (k + 1)).bind (followingBatch final size) := rfl
    rw [hstep, ih]
    rfl

lemma downloads_none : Downloads final size none [] := by
  intro k
  cases k with
  | zero => rfl
  | succ k =>
    induction k with
    | zero => rfl
    | succ k ih =>
      rw [batchAt, ih]
      rfl

lemma Downloads.cons (hd : Downloads final size (followingBatch final size batch) batches) :
    Downloads final size (some batch) (batch :: batches) := by
  intro k
  cases k with
  | zero => rfl
  | succ k =>
    rw [batchAt_succ, List.getElem?_cons_succ]
    exact hd k

/-- The list of downloads is the only one. -/
lemma Downloads.unique (hd : Downloads final size first batches)
    (hd' : Downloads final size first rest) : batches = rest := by
  apply List.ext_getElem?
  intro k
  rw [← hd k, hd' k]

/-! ### Tiling -/

lemma Tiles.covers (ht : Tiles hi lo batches) :
    (∃ b ∈ batches, b.Covers h) ↔ lo ≤ h ∧ h ≤ hi := by
  induction batches generalizing lo with
  | nil =>
    have : hi < lo := ht
    simp only [List.not_mem_nil, false_and, exists_false, false_iff, not_and]
    omega
  | cons batch batches ih =>
    obtain ⟨hstart, hne, hend, hrest⟩ := ht
    simp only [List.mem_cons, exists_eq_or_imp]
    rw [ih hrest, ScanBatch.Covers, hstart]
    omega

lemma Tiles.bounds (ht : Tiles hi lo batches) (hb : batch ∈ batches) :
    lo ≤ batch.startHeight ∧ batch.startHeight ≤ batch.endHeight ∧ batch.endHeight ≤ hi := by
  induction batches generalizing lo with
  | nil => cases hb
  | cons first batches ih =>
    obtain ⟨hstart, hne, hend, hrest⟩ := ht
    rcases List.mem_cons.mp hb with rfl | hb
    · omega
    · have := ih hrest hb
      omega

/-- Every later batch lies above every earlier one. -/
lemma Tiles.increasing (ht : Tiles hi lo batches) :
    batches.Pairwise fun a b => a.endHeight < b.startHeight := by
  induction batches generalizing lo with
  | nil => exact List.Pairwise.nil
  | cons first batches ih =>
    obtain ⟨-, -, -, hrest⟩ := ht
    refine List.pairwise_cons.mpr ⟨fun b hb => ?_, ih hrest⟩
    have := hrest.bounds hb
    omega

lemma Tiles.contiguous (ht : Tiles hi lo batches) :
    batches.IsChain fun a b => b.startHeight = a.endHeight + 1 := by
  induction batches generalizing lo with
  | nil => exact List.IsChain.nil
  | cons first batches ih =>
    obtain ⟨-, -, -, hrest⟩ := ht
    have hchain := ih hrest
    cases batches with
    | nil => exact List.IsChain.singleton _
    | cons second batches => exact hchain.cons_cons hrest.1

lemma Tiles.last (ht : Tiles hi lo batches) (hb : batches.getLast? = some batch) :
    batch.endHeight = hi := by
  induction batches generalizing lo with
  | nil => cases hb
  | cons first batches ih =>
    obtain ⟨-, -, hend, hrest⟩ := ht
    cases batches with
    | nil =>
      have hlt : hi < first.endHeight + 1 := hrest
      rw [List.getLast?_singleton, Option.some.injEq] at hb
      subst hb
      omega
    | cons second batches =>
      rw [List.getLast?_cons_cons] at hb
      exact ih hrest hb

lemma Tiles.append (h₁ : Tiles mid lo batches) (h₂ : Tiles hi (mid + 1) rest) (hm : mid ≤ hi)
    (hlo : lo ≤ mid + 1) : Tiles hi lo (batches ++ rest) := by
  induction batches generalizing lo with
  | nil =>
    have hlt : mid < lo := h₁
    obtain rfl : lo = mid + 1 := by omega
    exact h₂
  | cons first batches ih =>
    obtain ⟨hstart, hne, hend, hrest⟩ := h₁
    exact ⟨hstart, hne, by omega, ih hrest (by omega)⟩

/-! ### The forward batches -/

/-- **Below the largest `u32` the downloads end**: they tile what is left, in batches of at most
the batch size. -/
lemma downloads_tile (hsize : 1 ≤ size) (hfinal : final < u32Max) (lo : ℕ) :
    ∃ batches, Downloads final size (nextScanBatch lo final size) batches ∧
      Tiles final lo batches ∧
        ∀ b ∈ batches, b.endHeight + 1 - b.startHeight ≤ size := by
  induction hn : final + 1 - lo using Nat.strong_induction_on generalizing lo with
  | _ n ih =>
    unfold nextScanBatch
    split_ifs with hlo
    · exact ⟨[], downloads_none, hlo, by simp⟩
    · set batch : ScanBatch := ⟨lo, min (saturatingAdd lo (size - 1)) final⟩ with hbatch
      have hend : lo ≤ batch.endHeight ∧ batch.endHeight ≤ final ∧
          batch.endHeight + 1 - lo ≤ size := by
        simp only [hbatch, saturatingAdd]
        omega
      have hnext : saturatingAdd batch.endHeight 1 = batch.endHeight + 1 := by
        unfold saturatingAdd
        omega
      obtain ⟨rest, hd, ht, hs⟩ := ih (final + 1 - (batch.endHeight + 1)) (by omega)
        (batch.endHeight + 1) rfl
      refine ⟨batch :: rest, Downloads.cons ?_, ⟨rfl, hend.1, hend.2.1, ht⟩, ?_⟩
      · rw [followingBatch, hnext]
        exact hd
      · intro b hb
        rcases List.mem_cons.mp hb with rfl | hb
        · exact hend.2.2
        · exact hs b hb

/-- At the largest `u32` every batch is followed by another one. -/
lemma batchAt_isSome (hfirst : first.isSome = true) (k : ℕ) :
    (batchAt u32Max size first k).isSome = true := by
  induction k with
  | zero => exact hfirst
  | succ k ih =>
    obtain ⟨batch, hbatch⟩ := Option.isSome_iff_exists.mp ih
    rw [batchAt, hbatch, Option.bind_some, followingBatch, nextScanBatch, if_neg]
    · rfl
    · unfold saturatingAdd
      omega

lemma not_downloads_of_isSome (hfirst : first.isSome = true) :
    ¬Downloads u32Max size first batches := by
  intro hd
  have hsome : (batchAt u32Max size first batches.length).isSome := batchAt_isSome hfirst _
  rw [hd, List.getElem?_eq_none le_rfl] at hsome
  cases hsome

/-! ### The plan -/

/-- Where the plan starts: with the window below the last scanned height, or at the birthday. -/
def planStart (birthday : ℕ) (last : ℤ) (tip finality : ℕ) : ℤ :=
  if 0 < last ∧ (birthday : ℤ) ≤ min last tip then
    max birthday (min last tip - max finality 1 + 1)
  else birthday

/-- The forward scan starts right above the overlap, which starts where the plan does. -/
lemma overlap_then_forward (birthday finality : ℕ) {last tip : ℕ} (hlast : last ≤ u32Max)
    (htip : tip < u32Max) :
    (∃ overlap, reorgOverlapBatch birthday last tip finality = some overlap ∧
        (overlap.startHeight : ℤ) = max (planStart birthday last tip finality) 0 ∧
        overlap.startHeight ≤ overlap.endHeight ∧ overlap.endHeight ≤ tip ∧
        forwardScanStartHeight birthday last tip = overlap.endHeight + 1) ∨
      reorgOverlapBatch birthday last tip finality = none ∧
        planStart birthday last tip finality = birthday ∧
        forwardScanStartHeight birthday last tip = birthday := by
  rw [reorgOverlapBatch_eq hlast, forwardScanStartHeight_eq hlast, planStart]
  split_ifs with h0 h1 h2 h3 h4 h5
  all_goals first
    | omega
    | exact Or.inr ⟨rfl, rfl, by omega⟩
    | exact Or.inl ⟨_, rfl, by simp only; omega, by simp only; omega, by simp only; omega,
        by simp only; omega⟩

/-- **The plan reads exactly the right heights.** -/
theorem plan_covers_exactly {birthday last tip threshold size finality : ℕ}
    (hlast : last < 2 ^ 32) (htip : tip < 2 ^ 32 - 1) (hsize : 1 ≤ size) :
    let decision := buildSyncScanDecision birthday last tip threshold size finality
    ∃ forward, Downloads tip size decision.plan.firstBatch forward ∧
      (∀ b ∈ forward, b.endHeight + 1 - b.startHeight ≤ size) ∧
      (decision.plan.finalHeight = some tip ∨
        decision.plan.finalHeight = none ∧ forward = []) ∧
      let batches := decision.overlapBatch.toList ++ forward
      (∀ b ∈ batches, b.startHeight ≤ b.endHeight) ∧
      (batches.Pairwise fun a b => a.endHeight < b.startHeight) ∧
      (batches.IsChain fun a b => b.startHeight = a.endHeight + 1) ∧
      ∀ h : ℕ, (∃ b ∈ batches, b.Covers h) ↔
        planStart birthday last tip finality ≤ h ∧ h ≤ tip := by
  intro decision
  have hu : u32Max = 2 ^ 32 - 1 := rfl
  obtain ⟨forward, hd, ht, hs⟩ := downloads_tile hsize (show tip < u32Max by omega)
    (forwardScanStartHeight birthday last tip)
  have hplan : decision.plan.firstBatch =
      nextScanBatch (forwardScanStartHeight birthday last tip) tip size := by
    simp only [decision, buildSyncScanDecision, planScanRange]
    split_ifs with h
    · rw [nextScanBatch, if_pos h]
    · rfl
  refine ⟨forward, hplan ▸ hd, hs, ?_, ?_⟩
  · simp only [decision, buildSyncScanDecision, planScanRange]
    split_ifs with h
    · refine Or.inr ⟨rfl, ?_⟩
      rw [nextScanBatch, if_pos h] at hd
      exact hd.unique downloads_none
    · exact Or.inl rfl
  -- The overlap and the forward batches tile the planned range.
  suffices hall : ∃ lo, Tiles tip lo (decision.overlapBatch.toList ++ forward) ∧
      ∀ h : ℕ, planStart birthday last tip finality ≤ h ↔ lo ≤ h by
    obtain ⟨lo, hall, hlo⟩ := hall
    refine ⟨fun b hb => (hall.bounds hb).2.1, hall.increasing, hall.contiguous, fun h => ?_⟩
    rw [hall.covers, hlo]
  rcases overlap_then_forward birthday finality (show last ≤ u32Max by omega)
      (show tip < u32Max by omega) with
    ⟨overlap, hoverlap, hstart, hne, hend, hforward⟩ | ⟨hoverlap, hstart, hforward⟩
  · refine ⟨overlap.startHeight, ?_, fun h => by omega⟩
    have hfirst : Tiles overlap.endHeight overlap.startHeight [overlap] :=
      ⟨rfl, hne, le_rfl, Nat.lt_succ_self _⟩
    have hdec : decision.overlapBatch.toList = [overlap] := by
      simp only [decision, buildSyncScanDecision, hoverlap, Option.toList_some]
    rw [hdec]
    rw [hforward] at ht
    exact hfirst.append ht hend (by omega)
  · refine ⟨birthday, ?_, fun h => by omega⟩
    have hdec : decision.overlapBatch.toList = [] := by
      simp only [decision, buildSyncScanDecision, hoverlap, Option.toList_none]
    rw [hdec, List.nil_append]
    rw [hforward] at ht
    exact ht

/-- A birthday inside the window, a tip below the last scan, batches of two. -/
theorem plan_covers_exactly_dropped_tip :
    let decision := buildSyncScanDecision 3 9 6 5 2 4
    ∃ forward, Downloads 6 2 decision.plan.firstBatch forward ∧
      (∀ b ∈ forward, b.endHeight + 1 - b.startHeight ≤ 2) ∧
      (decision.plan.finalHeight = some 6 ∨ decision.plan.finalHeight = none ∧ forward = []) ∧
      let batches := decision.overlapBatch.toList ++ forward
      (∀ b ∈ batches, b.startHeight ≤ b.endHeight) ∧
      (batches.Pairwise fun a b => a.endHeight < b.startHeight) ∧
      (batches.IsChain fun a b => b.startHeight = a.endHeight + 1) ∧
      ∀ h : ℕ, (∃ b ∈ batches, b.Covers h) ↔ planStart 3 9 6 4 ≤ h ∧ h ≤ 6 :=
  plan_covers_exactly (by decide) (by decide) (by decide)

/-! ### Termination -/

/-- `+` on `u32` where overflow is checked. -/
def checkedAdd (a b : ℕ) : Option ℕ := if a + b ≤ u32Max then some (a + b) else none

/-- `-` on `u32` where overflow is checked. -/
def checkedSub (a b : ℕ) : Option ℕ := if b ≤ a then some (a - b) else none

/-- `plan_scan_range` where overflow is checked; `none` is a panic. -/
def planScanRangeChecked (nextHeight tipHeight catchUpThresholdBlocks catchUpBatchSize : ℕ) :
    Option ScanRangePlan :=
  if nextHeight > tipHeight then
    some
      { firstBatch := none
        finalHeight := none
        batchSize := catchUpBatchSize
        shouldMarkCatchingUp := false
        isCaughtUp := true }
  else do
    let lagBlocks ← checkedAdd (← checkedSub tipHeight nextHeight) 1
    some
      { firstBatch := nextScanBatch nextHeight tipHeight catchUpBatchSize
        finalHeight := some tipHeight
        batchSize := catchUpBatchSize
        shouldMarkCatchingUp := lagBlocks ≥ catchUpThresholdBlocks
        isCaughtUp := false }

/-- Where nothing overflows, checking changes nothing. -/
lemma planScanRangeChecked_eq {next tip threshold size : ℕ} (htip : tip < u32Max) :
    planScanRangeChecked next tip threshold size =
      some (planScanRange next tip threshold size) := by
  unfold planScanRangeChecked planScanRange
  split_ifs with h
  · rfl
  · have hlag : (tip - next + 1) % 2 ^ 32 = tip - next + 1 :=
      Nat.mod_eq_of_lt (by unfold u32Max at htip; omega)
    have hsub : checkedSub tip next = some (tip - next) := if_pos (by omega)
    have hadd : checkedAdd (tip - next) 1 = some (tip - next + 1) := if_pos (by omega)
    rw [hsub, Option.bind_eq_bind, Option.bind_some, hadd, hlag]
    rfl

/-- The plan is made without overflow, and its downloads end with the batch that ends at the
final height, each starting above the end of the one before. -/
def LoopEnds (birthday : ℕ) (last : ℤ) (tip threshold size : ℕ) : Prop :=
  ∃ plan, planScanRangeChecked (forwardScanStartHeight birthday last tip) tip threshold size =
      some plan ∧
    ∃ batches, Downloads tip size plan.firstBatch batches ∧
      (batches.IsChain fun a b => a.endHeight < b.startHeight) ∧
      ∀ b, batches.getLast? = some b → plan.finalHeight = some b.endHeight

/-- At the largest `u32` something is always planned, and the planning does not end. -/
lemma not_loopEnds {birthday threshold size : ℕ} {last : ℤ} (hbirthday : birthday ≤ u32Max) :
    ¬LoopEnds birthday last u32Max threshold size := by
  rintro ⟨plan, hplan, batches, hd, -, -⟩
  have hforward : forwardScanStartHeight birthday last u32Max ≤ u32Max := by
    unfold forwardScanStartHeight saturatingAdd
    split_ifs
    · exact hbirthday
    · rcases u32TryFrom last with _ | height
      · simp only [Option.elim_none]
        omega
      · simp only [Option.elim_some]
        omega
  refine not_downloads_of_isSome ?_ hd
  rw [planScanRangeChecked, if_neg (by omega)] at hplan
  obtain ⟨lag, -, hplan⟩ := Option.bind_eq_some_iff.mp hplan
  obtain ⟨blocks, -, hplan⟩ := Option.bind_eq_some_iff.mp hplan
  rw [← Option.some.inj hplan]
  unfold nextScanBatch
  rw [if_neg (by omega)]
  rfl

/-- **The batch loop ends for every tip but the largest `u32`.** -/
theorem loop_ends_iff {birthday tip threshold size : ℕ} {last : ℤ} (hbirthday : birthday < 2 ^ 32)
    (htip : tip < 2 ^ 32) (hsize : 1 ≤ size) :
    LoopEnds birthday last tip threshold size ↔ tip < 2 ^ 32 - 1 := by
  have hu : u32Max = 2 ^ 32 - 1 := rfl
  constructor
  · intro hends
    by_contra hmax
    obtain rfl : tip = u32Max := by omega
    exact not_loopEnds (by omega) hends
  · intro hlt
    obtain ⟨batches, hd, ht, -⟩ := downloads_tile hsize (show tip < u32Max by omega)
      (forwardScanStartHeight birthday last tip)
    refine ⟨_, planScanRangeChecked_eq (by omega), batches, ?_, ?_, fun b hb => ?_⟩
    · unfold planScanRange
      split_ifs with h
      · rwa [nextScanBatch, if_pos h] at hd
      · exact hd
    · exact ht.contiguous.imp fun a b hab => by omega
    · have hle := ht.bounds (List.mem_of_getLast? hb)
      unfold planScanRange
      rw [if_neg (by omega), ht.last hb]

/-- A first scan up to height 6. -/
theorem loop_ends_iff_first_scan : LoopEnds 3 0 6 5 2 ↔ 6 < 2 ^ 32 - 1 :=
  loop_ends_iff (by decide) (by decide) (by decide)

/-- **A loop without end**: a tip of the largest `u32`. -/
theorem loop_endless_at_largest_tip : ¬LoopEnds 3 0 (2 ^ 32 - 1) 5 2 :=
  not_loopEnds (by decide)

end ZcashPayment

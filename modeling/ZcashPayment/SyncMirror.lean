import ZcashPayment.SyncSpec
import ZcashPayment.ChainMirror

/-!
What an iteration leaves mirrored, whether it completes or ends early.

Within an iteration at the tip `T` the ledger mirrors a growing stretch of the chain: first
the heights below the finality window, then the window, then batch by batch up to the tip.
What the next iteration needs when this one ends early is less: the heights that are too far
below the stored scanned height for the window to read them again. Only one step can lose
such heights, the revocation above a tip that has dropped by more than the window; `calm`
says that it has nothing to lose there, and `clean` that an iteration whose tip has not
dropped starts without rows above it.
-/

namespace ZcashPayment

/-- Every height from the birthday to below `n` is mirrored. -/
def MirrorsOn (payee : Pool → Bytes → Option ℕ) (C : ChainView) (birthday n : ℕ) (db : Db) :
    Prop :=
  ∀ h, birthday ≤ h → h < n → Mirrors payee C db h

/-- What the node answers when the chain is `C` and the tip `T`. -/
def Sees (C : ChainView) (T : ℕ) : Answer → Prop
  | .sampledTip height => height = T
  | .latestTip _ => True
  | .compactBlocks batch blocks => C.Answers batch blocks
  | .mempoolTxids txids => ∀ r, C.Has r → r.minedHeight ≤ T →
      r.txidHex ∉ txids.map wireTxidToDisplayHex
  | .rawTransactions txids transactions => ∀ tx ∈ transactions,
      tx.txidHex ∈ txids.map wireTxidToDisplayHex

/-- A scanned block pays no address that was issued later: the receivers known to the scan
give what `payee` gives. -/
def ScanKnows (payee : Pool → Bytes → Option ℕ) (s : Scan) : Prop :=
  ∀ r ∈ s.receipts, r.isMempool = false →
    s.find r.pool r.receiverFingerprint = payee r.pool r.receiverFingerprint

/-- Heights of active mined rows. -/
def MinedFrom (birthday : ℕ) (db : Db) : Prop :=
  ∀ row ∈ db.receipts.rows, isActiveMined row = true → (birthday : ℤ) ≤ row.minedHeight

def MinedUpTo (T : ℤ) (db : Db) : Prop :=
  ∀ row ∈ db.receipts.rows, isActiveMined row = true → row.minedHeight ≤ T

/-- Depth and eligibility of every active mined row are those at the tip. -/
def MaturedAt (T : ℤ) (threshold : ℕ) (db : Db) : Prop :=
  ∀ row ∈ db.receipts.rows, isActiveMined row = true →
    row.confirmationDepth = depthAt T row.minedHeight ∧
      row.eligibleForWebhook = decide (depthAt T row.minedHeight ≥ threshold)

/-- The finality window, at least one block. -/
def Config.window (config : Config) : ℕ := max config.finalityConfirmations 1

section iteration

variable (payee : Pool → Bytes → Option ℕ) (C : ChainView) (config : Config)
  (birthday T L₀ : ℕ) (calm clean : Prop)

/-- What the next iteration can resume from. -/
structure Resumable (db : Db) : Prop where
  from_birthday : MinedFrom birthday db
  stored : ∃ L : ℕ, db.scanned = some (L : ℤ) ∧ L ≤ u32Max ∧ (L ≤ T ∨ L = L₀) ∧
    (calm → MirrorsOn payee C birthday (L + 1 - config.window) db)

/-- What holds in the iteration when the heights below `n` are mirrored. -/
structure Scanned (n : ℕ) (db : Db) : Prop
    extends Resumable payee C config birthday T L₀ calm db where
  on : MirrorsOn payee C birthday n db
  up_to_tip : clean ∨ T < L₀ → MinedUpTo T db

/-- What holds when the iteration starts. -/
structure Ready (db : Db) : Prop where
  from_birthday : MinedFrom birthday db
  stored : db.scanned = some (L₀ : ℤ) ∧ L₀ ≤ u32Max
  on : MirrorsOn payee C birthday (min L₀ T + 1 - config.window) db
  calm : calm → MirrorsOn payee C birthday (L₀ + 1 - config.window) db ∧
    ∀ row ∈ db.receipts.rows, isActiveMined row = true →
      ¬((T : ℤ) < row.minedHeight ∧ row.minedHeight < (L₀ + 1 - config.window : ℕ))
  clean : clean → L₀ ≤ T → MinedUpTo T db

variable {payee C config birthday T L₀ calm clean} {n k : ℕ} {db db' : Db}

lemma MirrorsOn.mono (h : MirrorsOn payee C birthday n db) (hk : k ≤ max n birthday) :
    MirrorsOn payee C birthday k db :=
  fun x h1 h2 => h x h1 (by omega)

lemma Scanned.mono (h : Scanned payee C config birthday T L₀ calm clean n db)
    (hk : k ≤ max n birthday) :
    Scanned payee C config birthday T L₀ calm clean k db :=
  ⟨h.toResumable, h.on.mono hk, h.up_to_tip⟩

/-! What writes neither receipts nor the scanned height changes nothing of this. -/

lemma Resumable.ofLedger : OfLedger (Resumable payee C config birthday T L₀ calm) := by
  intro db db' hr hs h
  obtain ⟨hb, L, hL, hu, hor, hcalm⟩ := h
  refine ⟨?_, L, hs ▸ hL, hu, hor, fun hc x h1 h2 => (hcalm hc x h1 h2).congr hr⟩
  rw [MinedFrom, hr]
  exact hb

lemma Scanned.ofLedger : OfLedger (Scanned payee C config birthday T L₀ calm clean n) := by
  intro db db' hr hs h
  refine ⟨Resumable.ofLedger hr hs h.toResumable, fun x h1 h2 => (h.on x h1 h2).congr hr,
    fun hc => ?_⟩
  rw [MinedUpTo, hr]
  exact h.up_to_tip hc

lemma Ready.ofLedger : OfLedger (Ready payee C config birthday T L₀ calm clean) := by
  intro db db' hr hs h
  obtain ⟨hb, hL, hon, hcalm, hclean⟩ := h
  refine ⟨?_, hs ▸ hL, fun x h1 h2 => (hon x h1 h2).congr hr, fun hc => ⟨fun x h1 h2 =>
    ((hcalm hc).1 x h1 h2).congr hr, hr ▸ (hcalm hc).2⟩, fun hc hle => ?_⟩
  · rw [MinedFrom, hr]
    exact hb
  · rw [MinedUpTo, hr]
    exact hclean hc hle

lemma MaturedAt.ofLedger {tip : ℤ} {threshold : ℕ} : OfLedger (MaturedAt tip threshold) := by
  intro db db' hr _ h
  rw [MaturedAt, hr]
  exact h

/-! ### The transactions -/

variable {now observedAt : Timestamp} {threshold : ℕ}

/-- Revoking above a dropped tip: the heights up to the tip stay mirrored, and so do those
above it where nothing is recorded. -/
lemma Ready.revoke (h : Ready payee C config birthday T L₀ calm clean db) (hT : T < L₀)
    (hr : db'.receipts = (revokePending T now db).receipts) (hs : db'.scanned = db.scanned) :
    Scanned payee C config birthday T L₀ calm clean (min L₀ T + 1 - config.window) db' where
  from_birthday row hrow hact :=
    h.from_birthday row (activeMined_revoke (hr ▸ hrow) hact).1 hact
  stored := by
    refine ⟨L₀, hs ▸ h.stored.1, h.stored.2, Or.inr rfl, fun hc x h1 h2 => ?_⟩
    obtain ⟨hon, hnone⟩ := h.calm hc
    by_cases hx : x ≤ T
    · exact revoke_mirrors hr (by omega) (hon x h1 h2)
    · refine revoke_mirrors_empty hr (fun row hrow hact heq => ?_) (hon x h1 h2)
      exact hnone row hrow hact (by omega)
  on x h1 h2 := revoke_mirrors hr (by omega) (h.on x h1 h2)
  up_to_tip _ row hrow hact := (activeMined_revoke (hr ▸ hrow) hact).2

lemma Ready.scanned (h : Ready payee C config birthday T L₀ calm clean db) (hT : ¬T < L₀) :
    Scanned payee C config birthday T L₀ calm clean (min L₀ T + 1 - config.window) db where
  from_birthday := h.from_birthday
  stored := ⟨L₀, h.stored.1, h.stored.2, Or.inr rfl, fun hc => (h.calm hc).1⟩
  on := h.on
  up_to_tip hc := by
    rcases hc with hc | hc
    · exact h.clean hc (by omega)
    · exact absurd hc hT

/-- Reconciling the heights next to the mirrored ones extends them. -/
lemma Scanned.reconcile (h : Scanned payee C config birthday T L₀ calm clean n db)
    {batch : ScanBatch} {attributed : List AttributedScannedReceipt}
    (hatt : AttributedIn payee C batch T threshold observedAt attributed)
    (h1 : birthday ≤ batch.startHeight) (h2 : batch.startHeight ≤ max n birthday)
    (h3 : batch.endHeight ≤ T)
    (hr : db'.receipts =
      (reconcilePending attributed batch.startHeight batch.endHeight now db).receipts)
    (hs : db'.scanned = db.scanned) :
    Scanned payee C config birthday T L₀ calm clean (batch.endHeight + 1) db' := by
  obtain ⟨⟨hb, L, hL, hu, hor, hcalm⟩, hon, hup⟩ := h
  refine ⟨⟨fun row hrow hact => ?_, L, hs ▸ hL, hu, hor, fun hc x hx1 hx2 => ?_⟩,
    fun x hx1 hx2 => ?_, fun hc row hrow hact => ?_⟩
  · rcases reconcile_rows hatt (hr ▸ hrow) hact with ⟨r, a, -, hr1, -, -, hrec⟩ | ⟨hold, -⟩
    · have := hrec.height
      omega
    · exact hb row hold hact
  · exact reconcile_keeps hatt hr (hcalm hc x hx1 hx2)
  · by_cases hx : batch.startHeight ≤ x
    · exact reconcile_mirrors hatt hr hx (by omega)
    · exact reconcile_keeps hatt hr (hon x hx1 (by omega))
  · rcases reconcile_rows hatt (hr ▸ hrow) hact with ⟨r, a, -, -, hr2, -, hrec⟩ | ⟨hold, -⟩
    · have := hrec.height
      omega
    · exact hup hc row hold hact

lemma Scanned.mature (h : Scanned payee C config birthday T L₀ calm clean n db)
    (hr : db'.receipts = (maturityPending T threshold db).receipts)
    (hs : db'.scanned = db.scanned) :
    Scanned payee C config birthday T L₀ calm clean n db' ∧ MaturedAt T threshold db' := by
  obtain ⟨⟨hb, L, hL, hu, hor, hcalm⟩, hon, hup⟩ := h
  have hold : ∀ row ∈ db'.receipts.rows, isActiveMined row = true →
      ∃ old ∈ db.receipts.rows, isActiveMined old = true ∧ row = maturedRow T threshold old := by
    intro row hrow hact
    obtain ⟨old, hmem, rfl⟩ := matured_row (hr ▸ hrow)
    split_ifs at hact ⊢ with ho
    · exact ⟨old, hmem, ho, rfl⟩
    · exact absurd hact ho
  refine ⟨⟨⟨fun row hrow hact => ?_, L, hs ▸ hL, hu, hor, fun hc x h1 h2 => ?_⟩,
    fun x h1 h2 => ?_, fun hc row hrow hact => ?_⟩, fun row hrow hact => ?_⟩
  · obtain ⟨old, hmem, ho, rfl⟩ := hold row hrow hact
    exact hb old hmem ho
  · exact maturity_mirrors hr (hcalm hc x h1 h2)
  · exact maturity_mirrors hr (hon x h1 h2)
  · obtain ⟨old, hmem, ho, rfl⟩ := hold row hrow hact
    exact hup hc old hmem ho
  · obtain ⟨old, hmem, ho, rfl⟩ := hold row hrow hact
    exact ⟨rfl, rfl⟩

/-- A snapshot that lists nothing mined up to the tip leaves all of it. -/
lemma Scanned.mempool (h : Scanned payee C config birthday T L₀ calm clean n db)
    (hn : n ≤ T + 1) {cutoff : Timestamp} {txids : List String} {revokeMissing : Bool}
    {receipts : List AttributedScannedReceipt}
    (hd : ∀ r, C.Has r → r.minedHeight ≤ T → ∀ e ∈ receipts, e.receiptUid ≠ r.receiptUid)
    (hr : db'.receipts =
      (mempoolPending cutoff txids receipts now threshold revokeMissing db).receipts)
    (hs : db'.scanned = db.scanned) :
    Scanned payee C config birthday T L₀ calm clean n db' ∧
      (MaturedAt T threshold db → MaturedAt T threshold db') := by
  obtain ⟨⟨hb, L, hL, hu, hor, hcalm⟩, hon, hup⟩ := h
  refine ⟨⟨⟨fun row hrow hact => ?_, L, hs ▸ hL, hu, hor, fun hc x h1 h2 => ?_⟩,
    fun x h1 h2 => ?_, fun hc row hrow hact => ?_⟩, fun hm row hrow hact => ?_⟩
  · exact hb row (activeMined_mempool (hr ▸ hrow) hact).1 hact
  · -- Above the tip a mirrored height records nothing, so the chain pays nothing there.
    have hx := hcalm hc x h1 h2
    refine mempool_mirrors hr (fun r a hhas hh ha => ?_) hx
    by_cases hxT : x ≤ T
    · exact hd r hhas (by omega)
    · obtain ⟨row, hrow, hrec⟩ := hx.complete r a hhas hh ha
      have := hup (Or.inr (by omega)) row hrow hrec.active
      have := hrec.height
      omega
  · exact mempool_mirrors hr (fun r a hhas hh _ => hd r hhas (by omega)) (hon x h1 h2)
  · exact hup hc row (activeMined_mempool (hr ▸ hrow) hact).1 hact
  · exact hm row (activeMined_mempool (hr ▸ hrow) hact).1 hact

/-- A status that stores a scanned height: the heights below its window are mirrored. -/
lemma Scanned.store (h : Scanned payee C config birthday T L₀ calm clean n db) {L : ℕ}
    (hL : L + 1 - config.window ≤ max n birthday) (hT : L ≤ T) (hu : L ≤ u32Max)
    (hr : db'.receipts = db.receipts) (hs : db'.scanned = some (L : ℤ)) :
    Scanned payee C config birthday T L₀ calm clean n db' := by
  have hon : MirrorsOn payee C birthday n db' := fun x h1 h2 => (h.on x h1 h2).congr hr
  refine ⟨⟨?_, L, hs, hu, Or.inl hT, fun _ => hon.mono hL⟩, hon, fun hc => ?_⟩
  · rw [MinedFrom, hr]
    exact h.from_birthday
  · rw [MinedUpTo, hr]
    exact h.up_to_tip hc

lemma Ready.resumable (h : Ready payee C config birthday T L₀ calm clean db) :
    Resumable payee C config birthday T L₀ calm db :=
  ⟨h.from_birthday, L₀, h.stored.1, h.stored.2, Or.inr rfl, fun hc => (h.calm hc).1⟩

end iteration

end ZcashPayment

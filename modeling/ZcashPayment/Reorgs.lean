import Mathlib.Algebra.GroupWithZero.Nat
import ZcashPayment.SyncIteration

/-!
The ledger across reorganizations.

Between two iterations the chain may change above the finality window and the tip may move
either way. A completed iteration leaves the ledger equal to the chain it saw, from the
birthday to the tip, and that is what the next one starts from.
-/

namespace ZcashPayment

/-- The active mined rows are exactly what the chain pays to issued addresses at heights from
the birthday to the tip. -/
structure HoldsChain (C : ChainView) (birthday T : ℕ) (db : Db) : Prop where
  sound : ∀ row ∈ db.receipts.rows, isActiveMined row = true →
    ∃ r a, C.Has r ∧ birthday ≤ r.minedHeight ∧ r.minedHeight ≤ T ∧
      findAddressIdByReceiverFingerprint db r.pool r.receiverFingerprint = some a ∧ Records row r a
  complete : ∀ r a, C.Has r → birthday ≤ r.minedHeight → r.minedHeight ≤ T →
    findAddressIdByReceiverFingerprint db r.pool r.receiverFingerprint = some a →
      ∃ row ∈ db.receipts.rows, Records row r a

variable {env : Env} {config : Config} {birthday : ℕ} {C C' : ChainView} {T n : ℕ} {db : Db}
  {payee : Pool → Bytes → Option ℕ} {w : World} {createdAt : Timestamp}
  {requests : List NewAddress}

lemma Completed.holdsChain {clean : Prop}
    (h : Completed (findAddressIdByReceiverFingerprint db) C config birthday T clean db)
    (hc : clean) : HoldsChain C birthday T db where
  sound row hrow hact := by
    have h1 := h.from_birthday row hrow hact
    have h2 := h.up_to_tip hc row hrow hact
    obtain ⟨x, hx⟩ : ∃ x : ℕ, row.minedHeight = x := ⟨row.minedHeight.toNat, by omega⟩
    obtain ⟨r, a, hr, ha, hrec⟩ := (h.on x (by omega) (by omega)).sound row hrow hact hx
    have := hrec.height
    exact ⟨r, a, hr, by omega, by omega, ha, hrec⟩
  complete r a hr h1 h2 ha := (h.on r.minedHeight h1 (by omega)).complete r a hr rfl ha

/-- Mirroring a height only sees the chain there. -/
lemma Mirrors.of_chain {h : ℕ} (hm : Mirrors payee C db h)
    (hC : C'.transactions h = C.transactions h) : Mirrors payee C' db h := by
  have hhas : ∀ r : IncomingReceipt, r.minedHeight = h → (C'.Has r ↔ C.Has r) := by
    rintro r rfl
    rw [ChainView.Has, ChainView.Has, ChainView.block, ChainView.block, hC]
  refine ⟨fun row hrow hact hh => ?_, fun r a hr hh ha => hm.complete r a ((hhas r hh).mp hr) hh ha⟩
  obtain ⟨r, a, hr, ha, hrec⟩ := hm.sound row hrow hact hh
  have hrh : r.minedHeight = h := by
    have := hrec.height
    omega
  exact ⟨r, a, (hhas r hrh).mpr hr, ha, hrec⟩

/-! ### One iteration of a run -/

/-- What an iteration of a run leaves, under the assumptions on what it saw. -/
lemma iterate_completed {L₀ : ℕ} {calm clean : Prop}
    (hr : Ready payee C config birthday T L₀ calm clean w.db)
    (hA : ∀ p ∈ (w.next env config birthday).answers, Sees C T p.2)
    (hS : ∀ s ∈ (w.next env config birthday).scans, ScanKnows payee s) {t : ℕ}
    (hok : (w.iterate env config birthday).1 = .ok t) :
    t = T ∧ Completed payee C config birthday T clean (w.next env config birthday).db := by
  have h := (syncOnce_mirrors : SyncTriple (SeesAll C T) (ScanKnows payee)
    (fun w => Ready payee C config birthday T L₀ calm clean w.db) (syncOnce env config birthday)
    _ _) { w with answers := [], scans := [] } fun _ => hr
  unfold World.next at *
  rcases hi : w.iterate env config birthday with ⟨e | t', w'⟩
  · rw [hi] at hok
    cases hok
  · rw [hi] at hok hA hS
    cases hok
    rw [show syncOnce env config birthday { w with answers := [], scans := [] } = (.ok t, w') from
      hi] at h
    exact h ⟨hA, hS⟩

/-! ### Runs -/

lemma startDb_scanned (config : Config) (createdAt : Timestamp) (requests : List NewAddress) :
    (startDb config createdAt requests).scanned = some 0 := by
  refine issueAll_induction (fun db => db.scanned = some 0) ?_ (fun new db a db' hs h => ?_)
    requests
  · exact (applyRequired_frame _ _).2
  · obtain ⟨_, _, rfl⟩ := allocateFreshAddress_ok h
    exact hs

/-- A service that has not run yet is ready for any chain. -/
lemma startDb_ready (payee : Pool → Bytes → Option ℕ) (C : ChainView) (config : Config)
    (birthday T : ℕ) (calm clean : Prop) (createdAt : Timestamp) (requests : List NewAddress) :
    Ready payee C config birthday T 0 calm clean (startDb config createdAt requests) := by
  have hrows := (startDb_inv (fun _ => 0) config 0 createdAt requests).2
  have hw := one_le_window config
  refine ⟨?_, ⟨startDb_scanned config createdAt requests, Nat.zero_le _⟩, ?_, fun _ => ⟨?_, ?_⟩, ?_⟩
  · simp [MinedFrom, hrows]
  · intro x _ hx
    omega
  · intro x _ hx
    omega
  · simp [hrows]
  · simp [MinedUpTo, hrows]

/-- What a completed iteration leaves is what the next one starts from, on a chain that agrees
below the finality window. -/
lemma Completed.ready (h : Completed payee C config birthday T True db) (hb : birthday ≤ T)
    (T' : ℕ) (hC : ∀ h : ℕ, h < min T T' + 1 - config.window →
      C'.transactions h = C.transactions h) :
    Ready payee C' config birthday T' T False True db := by
  obtain ⟨L, hL, hu, -, hLT⟩ := h.stored
  obtain rfl := hLT hb
  refine ⟨h.from_birthday, ⟨hL, hu⟩, fun x h1 h2 => ?_, False.elim, fun _ hle row hrow hact => ?_⟩
  · exact (h.on x h1 (by omega)).of_chain (hC x h2)
  · have := h.up_to_tip trivial row hrow hact
    omega

/-- **The ledger equals the chain across reorganizations.** After any sequence of completed
iterations, each on a chain that agrees with the one before below the finality window and at
any tip, the active mined rows are the receipts of the last chain from the birthday to the
last tip, with the depth and eligibility they have there, and that tip is stored as scanned. -/
theorem ledger_holds_chain_after_reorgs (env : Env) (config : Config) (birthday : ℕ)
    (createdAt : Timestamp) (requests : List NewAddress) (C : ℕ → ChainView) (T : ℕ → ℕ) (n : ℕ)
    (hok : ∀ k ≤ n, ((serviceAt env config birthday createdAt requests k).iterate env config
      birthday).1 = .ok (T k))
    (hbirthday : ∀ k ≤ n, birthday ≤ T k)
    (hsees : ∀ k ≤ n, ∀ p ∈ (serviceAt env config birthday createdAt requests (k + 1)).answers,
      Sees (C k) (T k) p.2)
    (hagree : ∀ k < n, ∀ (L : ℤ) (h : ℕ),
      (serviceAt env config birthday createdAt requests (k + 1)).db.scanned = some L →
        (h : ℤ) ≤ min L (T (k + 1)) - max config.finalityConfirmations 1 →
          (C (k + 1)).transactions h = (C k).transactions h)
    (hknown : ∀ k ≤ n, ∀ s ∈ (serviceAt env config birthday createdAt requests (k + 1)).scans,
      ScanKnows (findAddressIdByReceiverFingerprint
        (serviceAt env config birthday createdAt requests (n + 1)).db) s) :
    let db := (serviceAt env config birthday createdAt requests (n + 1)).db
    HoldsChain (C n) birthday (T n) db ∧
      MaturedAt (T n) config.webhookReportConfirmations db ∧ db.scanned = some (T n : ℤ) := by
  intro db
  have hrun : ∀ k ≤ n, Completed (findAddressIdByReceiverFingerprint db) (C k) config birthday
      (T k) True (serviceAt env config birthday createdAt requests (k + 1)).db := by
    intro k hk
    induction k with
    | zero =>
      have hready := startDb_ready (findAddressIdByReceiverFingerprint db) (C 0) config birthday
        (T 0) False True createdAt requests
      exact (iterate_completed hready (hsees 0 hk) (hknown 0 hk) (hok 0 hk)).2
    | succ k ih =>
      have hprev := ih (by omega)
      have hb := hbirthday k (by omega)
      obtain ⟨L, hL, -, -, hLT⟩ := hprev.stored
      have hready := hprev.ready hb (T (k + 1)) fun h hh => hagree k (by omega) L h hL <| by
        rw [hLT hb]
        unfold Config.window at hh
        omega
      exact (iterate_completed hready (hsees (k + 1) hk) (hknown (k + 1) hk) (hok (k + 1) hk)).2
  have hdone := hrun n le_rfl
  obtain ⟨L, hL, -, -, hLT⟩ := hdone.stored
  exact ⟨hdone.holdsChain trivial, hdone.matured, hLT (hbirthday n le_rfl) ▸ hL⟩

/-! ### A run -/

/-- The blocks of a batch, in order. -/
def ChainView.blocks (C : ChainView) (batch : ScanBatch) : List CompactBlock :=
  (List.range' batch.startHeight (batch.endHeight + 1 - batch.startHeight)).map C.block

lemma ChainView.answers_blocks (C : ChainView) (batch : ScanBatch) :
    C.Answers batch (C.blocks batch) := by
  intro b
  simp only [blocks, List.mem_map, List.mem_range'_1]
  constructor
  · rintro ⟨h, hh, rfl⟩
    exact ⟨h, by omega, by omega, rfl⟩
  · rintro ⟨h, h1, h2, rfl⟩
    exact ⟨h, by omega, rfl⟩

/-- The chain with the listed transactions at the listed heights. -/
def ChainView.ofList (txs : List (ℕ × WalletTx))
    (h : ((txs.flatMap fun p => txReceipts p.1 false p.2).map IncomingReceipt.receiptUid).Nodup) :
    ChainView where
  transactions x := (txs.filter fun p => p.1 = x).map Prod.snd
  unique := by
    have hmem : ∀ (x : ℕ) (r : IncomingReceipt),
        r ∈ scanOneCompactBlock ⟨x, (txs.filter fun p => p.1 = x).map Prod.snd⟩ →
          r ∈ txs.flatMap fun p => txReceipts p.1 false p.2 := by
      intro x r hr
      obtain ⟨tx, htx, hr⟩ := List.mem_flatMap.mp hr
      obtain ⟨p, hp, rfl⟩ := List.mem_map.mp htx
      obtain ⟨hp, hx⟩ := List.mem_filter.mp hp
      exact List.mem_flatMap.mpr ⟨p, hp, by simpa [of_decide_eq_true hx] using hr⟩
    intro x x' r r' hr hr' hu
    exact List.inj_on_of_nodup_map h (hmem x r hr) (hmem x' r' hr') hu

/-- The answers of a node with the chain `C`, the tip `T` and an empty mempool. -/
def answersAs (C : ChainView) (T : ℕ) : Answer → Bool
  | .sampledTip height => height = T
  | .latestTip _ => true
  | .compactBlocks batch blocks => blocks = C.blocks batch
  | .mempoolTxids txids => txids.isEmpty
  | .rawTransactions _ transactions => transactions.isEmpty

lemma sees_of_answersAs {a : Answer} (h : answersAs C T a = true) : Sees C T a := by
  cases a with
  | sampledTip height => simpa [answersAs, Sees] using h
  | latestTip height => trivial
  | compactBlocks batch blocks =>
    have hb : blocks = C.blocks batch := of_decide_eq_true h
    exact hb ▸ C.answers_blocks batch
  | mempoolTxids txids =>
    rw [List.isEmpty_iff.mp h]
    simp [Sees]
  | rawTransactions txids transactions =>
    rw [List.isEmpty_iff.mp h]
    simp [Sees]

instance (payee : Pool → Bytes → Option ℕ) (s : Scan) : Decidable (ScanKnows payee s) := by
  unfold ScanKnows
  infer_instance

instance neZero_heights : NeZero (2 ^ 32) := ⟨by decide⟩

/-- A node that answers from a tip and a chain at every moment, except while it is down. -/
def scriptedEnv (tip : ℕ → Fin (2 ^ 32)) (chain : ℕ → ChainView) (down : ℕ → Bool) : Env where
  delay _ := 0
  killed _ := false
  clock _ := "2026-01-01T00:00:00Z"
  mempoolFreshCutoff := .ok
  minted _ := []
  latestBlockHeight t := .ok (tip t)
  compactBlocks t batch :=
    if down t then .error (.wallet "unavailable") else .ok ((chain t).blocks batch)
  mempoolTxids _ := .ok []
  rawTransactions _ _ := .ok []

/-- A transaction that pays the receiver of the test address. -/
def paymentTx (txidHex : String) (valueZat : ℕ) : WalletTx :=
  ⟨txidHex, [⟨.orchard, 0, valueZat, [1]⟩]⟩

def minedAt (height : ℕ) : ChainView :=
  .ofList [(height, paymentTx "aa" 5)] (by simp [txReceipts, paymentTx])

/-- A payment at height 8 under a tip of 10; the tip drops to 9, and the payment is at 9. -/
def reorgEnv : Env :=
  scriptedEnv (fun t => if t ≤ 18 then 10 else 9) (fun t => minedAt (if t ≤ 18 then 8 else 9))
    fun _ => false

/-- The ledger follows the payment to its new height. -/
theorem ledger_follows_a_moved_payment :
    HoldsChain (minedAt 9) 1 9 (serviceAt reorgEnv testConfig 1 "t0" [testAddress] 2).db ∧
      (serviceAt reorgEnv testConfig 1 "t0" [testAddress] 2).db.scanned = some 9 := by
  have h := ledger_holds_chain_after_reorgs reorgEnv testConfig 1 "t0" [testAddress]
    (fun k => minedAt (8 + k)) (fun k => 10 - k) 1 ?_ ?_ ?_ ?_ ?_
  · exact ⟨h.1, h.2.2⟩
  · decide +kernel
  · intro k hk
    omega
  · have hall : ∀ k ≤ 1, ((serviceAt reorgEnv testConfig 1 "t0" [testAddress] (k + 1)).answers.all
        fun p => answersAs (minedAt (8 + k)) (10 - k) p.2) = true := by
      decide +kernel
    exact fun k hk p hp => sees_of_answersAs (List.all_eq_true.mp (hall k hk) p hp)
  · intro k hk L h _ hh
    obtain rfl : k = 0 := by omega
    have h1 : 9 ≠ h := by
      simp only [testConfig] at hh
      omega
    have h2 : 8 ≠ h := by
      simp only [testConfig] at hh
      omega
    simp [minedAt, ChainView.ofList, h1, h2]
  · decide +kernel

end ZcashPayment

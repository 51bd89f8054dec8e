import ZcashPayment.Sync
import ZcashPayment.QueueSpec
import ZcashPayment.LedgerRows

/-!
Rules for the stages of an iteration.

A property of the world is carried through an iteration only as far as what the node answered
and what the scans saw allow: `SyncTriple` is a triple whose conditions all assume that the
answers satisfy `A` and the scans `S`. Both records only grow, so what is assumed of them at
the end holds at every earlier point.

Each rule asks what one database transaction does, and leaves the rest of the stage to the
property being `Stable`: kept when moments pass, addresses are issued and records are written.
-/

namespace ZcashPayment

open Prog

/-! ### Triples under assumptions on the answers -/

structure World.Within (A : ℕ × Answer → Prop) (S : Scan → Prop) (w : World) : Prop where
  answers : ∀ a ∈ w.answers, A a
  scans : ∀ s ∈ w.scans, S s

def Guarded (A : ℕ × Answer → Prop) (S : Scan → Prop) (P : World → Prop) (w : World) : Prop :=
  w.Within A S → P w

def SyncTriple {α : Type} (A : ℕ × Answer → Prop) (S : Scan → Prop) (P : World → Prop)
    (m : SyncM α) (Q : α → World → Prop) (E : Halt → World → Prop) : Prop :=
  Triple (Guarded A S P) m (fun a => Guarded A S (Q a)) fun e => Guarded A S (E e)

/-- The world at the next moment. -/
def World.ticked (env : Env) (w : World) : World :=
  let t := w.time + 1 + env.delay w.time
  { w with time := t, db := issueAll (env.clock t) (env.minted t) w.db }

def World.committed (w : World) (db : Db) : World :=
  { w with db, history := (w.time, db) :: w.history }

structure Stable (env : Env) (J : World → Prop) : Prop where
  tick : ∀ w, J w → J (w.ticked env)
  answer : ∀ w a, J w → J { w with answers := a :: w.answers }
  scan : ∀ w s, J w → J { w with scans := s :: w.scans }

/-- A property of the database is stable when issuing an address keeps it. -/
lemma Stable.of_db {env : Env} {I : Db → Prop}
    (h : ∀ new createdAt db a db', I db → allocateFreshAddress new createdAt db = .ok (a, db') →
      I db') : Stable env fun w => I w.db where
  tick _ hw := issueAll_induction I hw (fun new db a db' => h new _ db a db') _
  answer _ _ hw := hw
  scan _ _ hw := hw

lemma Stable.and {env : Env} {J K : World → Prop} (hJ : Stable env J) (hK : Stable env K) :
    Stable env fun w => J w ∧ K w where
  tick w hw := ⟨hJ.tick w hw.1, hK.tick w hw.2⟩
  answer w a hw := ⟨hJ.answer w a hw.1, hK.answer w a hw.2⟩
  scan w s hw := ⟨hJ.scan w s hw.1, hK.scan w s hw.2⟩

/-- A fact that is not about the world is carried along. -/
lemma Stable.fact {env : Env} {J : World → Prop} (hJ : Stable env J) (φ : Prop) :
    Stable env fun w => J w ∧ φ where
  tick w hw := ⟨hJ.tick w hw.1, hw.2⟩
  answer w a hw := ⟨hJ.answer w a hw.1, hw.2⟩
  scan w s hw := ⟨hJ.scan w s hw.1, hw.2⟩

lemma Stable.ex {env : Env} {ι : Type} {J : ι → World → Prop} (hJ : ∀ i, Stable env (J i)) :
    Stable env fun w => ∃ i, J i w where
  tick w := fun ⟨i, hw⟩ => ⟨i, (hJ i).tick w hw⟩
  answer w a := fun ⟨i, hw⟩ => ⟨i, (hJ i).answer w a hw⟩
  scan w s := fun ⟨i, hw⟩ => ⟨i, (hJ i).scan w s hw⟩

variable {env : Env} {config : Config} {A : ℕ × Answer → Prop} {S : Scan → Prop} {α β : Type}
  {P P' J K : World → Prop} {Q Q' : α → World → Prop} {E E' : Halt → World → Prop} {m : SyncM α}

lemma SyncTriple.bind {R : α → World → Prop} {Q : β → World → Prop} {k : α → SyncM β}
    (hm : SyncTriple A S P m R E) (hk : ∀ a, SyncTriple A S (R a) (k a) Q E) :
    SyncTriple A S P (m >>= k) Q E :=
  Triple.bind hm hk

lemma SyncTriple.pure {a : α} (h : ∀ w, P w → Q a w) :
    SyncTriple A S P (Pure.pure a) Q E :=
  Triple.pure fun w hw hin => h w (hw hin)

lemma SyncTriple.stop {e : Halt} (h : ∀ w, P w → E e w) :
    SyncTriple A S P (Prog.stop e : SyncM α) Q E :=
  Triple.stop fun w hw hin => h w (hw hin)

lemma SyncTriple.consequence (h : SyncTriple A S P m Q E) (hP : ∀ w, P' w → P w)
    (hQ : ∀ a w, Q a w → Q' a w) (hE : ∀ e w, E e w → E' e w) : SyncTriple A S P' m Q' E' :=
  Triple.consequence h (fun w hw hin => hP w (hw hin)) (fun a w hw hin => hQ a w (hw hin))
    fun e w hw hin => hE e w (hw hin)

lemma SyncTriple.pre (h : SyncTriple A S P m Q E) (hP : ∀ w, P' w → P w) :
    SyncTriple A S P' m Q E :=
  h.consequence hP (fun _ _ h => h) fun _ _ h => h

lemma SyncTriple.post (h : SyncTriple A S P m Q E) (hQ : ∀ a w, Q a w → Q' a w) :
    SyncTriple A S P m Q' E :=
  h.consequence (fun _ h => h) hQ fun _ _ h => h

lemma SyncTriple.halts (h : SyncTriple A S P m Q E) (hE : ∀ e w, E e w → E' e w) :
    SyncTriple A S P m Q E' :=
  h.consequence (fun _ h => h) (fun _ _ h => h) hE

lemma SyncTriple.ite {c : Prop} [Decidable c] {m₁ m₂ : SyncM α}
    (h₁ : c → SyncTriple A S P m₁ Q E) (h₂ : ¬c → SyncTriple A S P m₂ Q E) :
    SyncTriple A S P (if c then m₁ else m₂) Q E :=
  Triple.ite h₁ h₂

/-! ### Moments, answers, transactions -/

/-- The program was killed, at a moment the surroundings chose. -/
def Killed (env : Env) (e : Halt) : Prop := e = .killed ∧ ∃ t, env.killed t = true

/-- The program ended early while it waited for `awaiting`. -/
def EndedAt (env : Env) (awaiting : Await) (e : Halt) : Prop :=
  Killed env e ∨ ∃ error, e = .failed awaiting error

lemma tick_rule (hJ : Stable env J) :
    SyncTriple A S J (tick env) (fun t w => J w ∧ t = w.time) fun e w => J w ∧ Killed env e := by
  intro w hw
  have hJ' : Guarded A S J (w.ticked env) :=
    fun hin => hJ.tick w (hw ⟨hin.answers, hin.scans⟩)
  unfold tick
  by_cases hk : env.killed (w.time + 1 + env.delay w.time)
  · simp only [hk, if_true]
    exact fun hin => ⟨hJ' hin, rfl, _, hk⟩
  · simp only [hk, if_false, Bool.false_eq_true]
    exact fun hin => ⟨hJ' hin, rfl⟩

/-- **Waiting**: the answer that arrives is one that is assumed of the answers. -/
lemma await_rule {awaiting : Await} {ask : ℕ → Except AppError α} {answer : α → Answer}
    (hJ : Stable env J) :
    SyncTriple A S J (await env awaiting ask answer)
      (fun a w => J w ∧ ask w.time = .ok a ∧ A (w.time, answer a))
      fun e w => J w ∧ EndedAt env awaiting e := by
  refine SyncTriple.bind ((tick_rule hJ).halts fun e w h => ⟨h.1, Or.inl h.2⟩) fun t => ?_
  rcases h : ask t with e | a
  · exact SyncTriple.stop fun w hw => ⟨hw.1, Or.inr ⟨e, rfl⟩⟩
  · intro w hw hin
    have hin' : w.Within A S := ⟨fun x hx => hin.answers x (List.mem_cons_of_mem _ hx), hin.scans⟩
    obtain ⟨hJw, rfl⟩ := hw hin'
    exact ⟨hJ.answer w _ hJw, h, hin.answers _ List.mem_cons_self⟩

/-- **Transactions**: what the operation does when it succeeds decides. -/
lemma transaction_rule {awaiting : Await} {op : Timestamp → Db → Except AppError (α × Db)}
    {J' : α → World → Prop} (hJ : Stable env J)
    (hop : ∀ w now a db, J w → op now w.db = .ok (a, db) → J' a (w.committed db)) :
    SyncTriple A S J (transaction env awaiting op) J' fun e w => J w ∧ EndedAt env awaiting e := by
  refine SyncTriple.bind ((tick_rule hJ).halts fun e w h => ⟨h.1, Or.inl h.2⟩) fun t => ?_
  intro w hw
  unfold commitAt
  rcases h : op (env.clock t) w.db with e | ⟨a, db⟩
  · exact fun hin => ⟨(hw hin).1, Or.inr ⟨e, rfl⟩⟩
  · intro hin
    obtain ⟨hJw, rfl⟩ := hw ⟨hin.answers, hin.scans⟩
    exact hop w _ a db hJw h

/-- An operation that cannot fail ends early only when the process is killed. -/
lemma transaction_total {awaiting : Await} {op : Timestamp → Db → Except AppError (α × Db)}
    {J' : α → World → Prop} (hJ : Stable env J)
    (hop : ∀ w now, J w → ∃ a db, op now w.db = .ok (a, db) ∧ J' a (w.committed db)) :
    SyncTriple A S J (transaction env awaiting op) J' fun e w => J w ∧ Killed env e := by
  refine SyncTriple.bind (tick_rule hJ) fun t => ?_
  intro w hw
  unfold commitAt
  rcases h : op (env.clock t) w.db with e | ⟨a, db⟩
  · intro hin
    obtain ⟨a, db, hok, -⟩ := hop w (env.clock t) (hw hin).1
    rw [h] at hok
    cases hok
  · intro hin
    obtain ⟨hJw, rfl⟩ := hw ⟨hin.answers, hin.scans⟩
    obtain ⟨a', db', hok, hJ'⟩ := hop w _ hJw
    rw [h] at hok
    cases hok
    exact hJ'

lemma get_rule : SyncTriple A S P Prog.get (fun w' w => P w ∧ w' = w) E :=
  Triple.get fun _ hw hin => ⟨hw hin, rfl⟩

lemma logScan_rule {scan : Scan} (hK : ∀ w, P w → K { w with scans := scan :: w.scans }) :
    SyncTriple A S P (logScan scan) (fun _ w => K w ∧ S scan) E := by
  intro w hw hin
  have hin' : w.Within A S := ⟨hin.answers, fun x hx => hin.scans x (List.mem_cons_of_mem _ hx)⟩
  exact ⟨hK w (hw hin'), hin.scans _ List.mem_cons_self⟩

lemma nowUtc_rule {awaiting : Await} (hJ : Stable env J) :
    SyncTriple A S J (nowUtc env) (fun _ w => J w) fun e w => J w ∧ EndedAt env awaiting e :=
  SyncTriple.bind ((tick_rule hJ).halts fun _ _ h => ⟨h.1, Or.inl h.2⟩)
    fun _ => SyncTriple.pure fun _ hw => hw.1

/-! ### Stages

What a property says of the receivers that are known when receipts are attributed is its
`F`: it holds of the lookup at that moment, and it is kept until the receipts are written. -/

section stages

variable {awaiting : Await} {tip : ℕ} {F : (Pool → Bytes → Option ℕ) → World → Prop}

/-- **Attribution**: what is returned is what the receivers known at that moment give. -/
lemma attribute_rule {receipts : List IncomingReceipt} (hJ : Stable env J)
    (hF : ∀ w, J w → F (findAddressIdByReceiverFingerprint w.db) w)
    (hFs : ∀ find, Stable env (F find)) (hFJ : ∀ find w, F find w → J w) :
    SyncTriple A S J (attributeReceipts env config awaiting tip receipts)
      (fun r w => ∃ find, F find w ∧ S ⟨find, receipts⟩ ∧
        attributeScannedReceipts find tip config.webhookReportConfirmations r.1 receipts =
          .ok r.2)
      fun e w => J w ∧ EndedAt env awaiting e := by
  refine (nowUtc_rule hJ).bind fun observedAt => get_rule.bind fun w₀ => ?_
  refine SyncTriple.bind
    (R := fun _ w => F (findAddressIdByReceiverFingerprint w₀.db) w ∧ S ⟨_, receipts⟩)
    (logScan_rule fun w hw => ?_) fun _ => ?_
  · obtain ⟨hw, rfl⟩ := hw
    exact (hFs _).scan w₀ _ (hF w₀ hw)
  · rcases h : attributeScannedReceipts (findAddressIdByReceiverFingerprint w₀.db) tip
      config.webhookReportConfirmations observedAt receipts with e | attributed
    · exact SyncTriple.stop fun w hw => ⟨hFJ _ w hw.1, Or.inr ⟨e, rfl⟩⟩
    · exact SyncTriple.pure fun w hw => ⟨_, hw.1, hw.2, h⟩

/-- The blocks of an answer, in the order they are scanned. -/
def sortBlocks (blocks : List CompactBlock) : List CompactBlock :=
  blocks.insertionSort fun b b' => b.height ≤ b'.height

lemma mem_sortBlocks {blocks : List CompactBlock} {b : CompactBlock} :
    b ∈ sortBlocks blocks ↔ b ∈ blocks :=
  (List.perm_insertionSort _ blocks).mem_iff

lemma fetch_rule {batch : ScanBatch} (hb : batch.startHeight ≤ batch.endHeight)
    (hJ : Stable env J) :
    SyncTriple A S J (fetchCompactBlocksForHeightRange env awaiting batch)
      (fun blocks w => J w ∧ ∃ t answered, A (t, .compactBlocks batch answered) ∧
        blocks = sortBlocks answered)
      fun e w => J w ∧ EndedAt env awaiting e := by
  unfold fetchCompactBlocksForHeightRange
  rw [if_neg (by omega)]
  refine (await_rule hJ).bind fun answered => SyncTriple.pure fun w hw => ?_
  exact ⟨hw.1, w.time, answered, hw.2.2, rfl⟩

/-- **Reading a range**: the blocks of one answer are scanned, attributed and reconciled. -/
lemma reconcileRange_rule {batch : ScanBatch} (hb : batch.startHeight ≤ batch.endHeight)
    {J' : ReceiptRangeReconciliation → World → Prop} (hJ : Stable env J)
    (hF : ∀ w, J w → F (findAddressIdByReceiverFingerprint w.db) w)
    (hFs : ∀ find, Stable env (F find)) (hFJ : ∀ find w, F find w → J w)
    (hop : ∀ find t answered observedAt attributed w now out db, F find w →
      A (t, .compactBlocks batch answered) →
      S ⟨find, scanCompactBlocks (sortBlocks answered)⟩ →
      attributeScannedReceipts find tip config.webhookReportConfirmations observedAt
        (scanCompactBlocks (sortBlocks answered)) = .ok attributed →
      reconcileAttributedReceiptsInRange attributed batch.startHeight batch.endHeight tip
        config.finalityConfirmations now w.db = .ok (out, db) → J' out (w.committed db)) :
    SyncTriple A S J (reconcileRange env config awaiting tip batch) J'
      fun e w => J w ∧ EndedAt env awaiting e := by
  refine (fetch_rule hb hJ).bind fun blocks => ?_
  -- The answer is carried as a fact about the blocks.
  set φ := ∃ t answered, A (t, .compactBlocks batch answered) ∧ blocks = sortBlocks answered
  refine SyncTriple.bind ((attribute_rule (F := fun find w => F find w ∧ φ) (hJ.fact φ)
    (fun w hw => ⟨hF w hw.1, hw.2⟩) (fun find => (hFs find).fact φ)
    fun find w hw => ⟨hFJ find w hw.1, hw.2⟩).halts fun e w h => ⟨h.1.1, h.2⟩) fun r => ?_
  obtain ⟨observedAt, attributed⟩ := r
  refine (transaction_rule
    (Stable.ex fun find => ((hFs find).fact φ).fact (S ⟨find, scanCompactBlocks blocks⟩ ∧ _))
    fun w now out db hw hok => ?_).halts fun e w h => ?_
  · obtain ⟨find, ⟨hw, t, answered, hA, rfl⟩, hS, hatt⟩ := hw
    exact hop find t answered observedAt attributed w now out db hw hA hS hatt hok
  · obtain ⟨⟨find, hw, -⟩, hE⟩ := h
    exact ⟨hFJ find w hw.1, hE⟩

lemma queue_rule {ids : List ℕ} {R : List ℕ → World → Prop} (hJ : Stable env J)
    (hop : ∀ w now, J w → R (queueWebhookDeliveriesForDirtyAddresses now ids w.db).1
      (w.committed (queueWebhookDeliveriesForDirtyAddresses now ids w.db).2)) :
    SyncTriple A S J (queueWebhookDeliveries env awaiting ids) R
      fun e w => J w ∧ Killed env e :=
  transaction_total hJ fun w now hw => ⟨_, _, rfl, hop w now hw⟩

/-! ### The mempool -/

/-- A snapshot, with the transactions that had active mempool rows when it was taken. -/
structure MempoolSnapshot where
  takenAt : ℕ
  txids : List Bytes
  known : List String

namespace MempoolSnapshot

def current (s : MempoolSnapshot) : List String := s.txids.map wireTxidToDisplayHex

def toFetch (s : MempoolSnapshot) : List Bytes :=
  s.txids.filter fun txid => !s.known.contains (wireTxidToDisplayHex txid)

/-- What was returned for the transactions to fetch. -/
def Fetched (A : ℕ × Answer → Prop) (s : MempoolSnapshot) (raw : List WalletTx) : Prop :=
  s.toFetch = [] ∧ raw = [] ∨ ∃ t, A (t, .rawTransactions s.toFetch raw)

end MempoolSnapshot

lemma fetchRaw_rule {s : MempoolSnapshot} (hJ : Stable env J) :
    SyncTriple A S J (fetchRawTransactionsByTxids env s.toFetch)
      (fun raw w => J w ∧ s.Fetched A raw) fun e w => J w ∧ EndedAt env .mempool e := by
  unfold fetchRawTransactionsByTxids
  refine SyncTriple.ite (fun h => SyncTriple.pure fun w hw => ?_) fun _ => ?_
  · exact ⟨hw, Or.inl ⟨List.isEmpty_iff.mp h, rfl⟩⟩
  · exact (await_rule hJ).post fun raw w hw => ⟨hw.1, Or.inr ⟨_, hw.2.2⟩⟩

lemma confirmTip_rule (hJ : Stable env J) :
    SyncTriple A S J (confirmTip env tip)
      (fun revoke w => J w ∧ (revoke = true → ∃ latest, A (w.time, .latestTip latest) ∧
        latest ≤ tip))
      fun e w => J w ∧ EndedAt env .mempool e := by
  refine ((tick_rule hJ).halts fun e w h => ⟨h.1, Or.inl h.2⟩).bind fun t => ?_
  rcases h : env.latestBlockHeight t with e | latest
  · exact SyncTriple.pure fun w hw => ⟨hw.1, by simp⟩
  · intro w hw hin
    have hin' : w.Within A S := ⟨fun x hx => hin.answers x (List.mem_cons_of_mem _ hx), hin.scans⟩
    obtain ⟨hJw, rfl⟩ := hw hin'
    exact ⟨hJ.answer w _ hJw, fun h =>
      ⟨latest, hin.answers _ List.mem_cons_self, by simpa using h⟩⟩

/-- Time only passes. -/
lemma Stable.since (env : Env) (t : ℕ) : Stable env fun w => t ≤ w.time where
  tick w hw := by
    show t ≤ w.time + 1 + env.delay w.time
    omega
  answer _ _ hw := hw
  scan _ _ hw := hw

/-- **Reconciling the mempool**: the snapshot, the transactions fetched for it, and the tip
that was confirmed after it where rows may be revoked. -/
lemma mempool_rule {revokeMissing : Bool} {K : MempoolSnapshot → World → Prop}
    {F : MempoolSnapshot → List WalletTx → (Pool → Bytes → Option ℕ) → World → Prop}
    {J₁ : ReceiptRangeReconciliation → World → Prop} {J' : List ℕ → World → Prop}
    (hJ : Stable env J)
    (hK : ∀ w txids, J w → A (w.time, .mempoolTxids txids) →
      K ⟨w.time, txids, activeMempoolTxids w.db⟩ w)
    (hKs : ∀ s, Stable env (K s)) (hKJ : ∀ s w, K s w → J w)
    (hF : ∀ s raw w, K s w → s.Fetched A raw →
      F s raw (findAddressIdByReceiverFingerprint w.db) w)
    (hFs : ∀ s raw find, Stable env (F s raw find))
    (hFK : ∀ s raw find w, F s raw find w → K s w)
    (hop : ∀ s raw find observedAt attributed revoke w out db, F s raw find w →
      S ⟨find, scanMempoolTransactions raw⟩ →
      attributeScannedReceipts find tip config.webhookReportConfirmations observedAt
        (scanMempoolTransactions raw) = .ok attributed →
      (revoke = true → revokeMissing = true ∧ ∃ t latest, s.takenAt ≤ t ∧
        A (t, .latestTip latest) ∧ latest ≤ tip) →
      reconcileMempoolSnapshot env.mempoolFreshCutoff s.current attributed observedAt tip
        config.finalityConfirmations config.webhookReportConfirmations revoke w.db =
          .ok (out, db) → J₁ out (w.committed db))
    (hs₁ : ∀ out, Stable env (J₁ out))
    (hq : ∀ out w now, J₁ out w → J' out.affectedAddressIds
      (w.committed (queueWebhookDeliveriesForDirtyAddresses now out.affectedAddressIds w.db).2)) :
    SyncTriple A S J (reconcileCurrentMempool env config tip revokeMissing) J'
      fun e w => J w ∧ EndedAt env .mempool e ∨ ∃ out, J₁ out w ∧ Killed env e := by
  refine ((await_rule hJ).halts fun e w h => Or.inl h).bind fun txids => get_rule.bind fun w₀ => ?_
  set s : MempoolSnapshot := ⟨w₀.time, txids, activeMempoolTxids w₀.db⟩
  refine SyncTriple.pre (P := fun w => K s w ∧ s.takenAt ≤ w.time) ?_ fun w hw => ?_
  swap
  · obtain ⟨⟨hw, -, hA⟩, rfl⟩ := hw
    exact ⟨hK w₀ txids hw hA, le_rfl⟩
  have hKt := (hKs s).and (Stable.since env s.takenAt)
  refine ((fetchRaw_rule (s := s) hKt).halts fun e w h => ?_).bind fun raw => ?_
  · exact Or.inl ⟨hKJ s w h.1.1, h.2⟩
  set φ := s.Fetched A raw
  refine SyncTriple.bind ((attribute_rule
    (F := fun find w => (F s raw find w ∧ s.takenAt ≤ w.time) ∧ φ) (hKt.fact φ)
    (fun w hw => ⟨⟨hF s raw w hw.1.1 hw.2, hw.1.2⟩, hw.2⟩)
    (fun find => ((hFs s raw find).and (Stable.since env s.takenAt)).fact φ)
    fun find w hw => ⟨⟨hFK s raw find w hw.1.1, hw.1.2⟩, hw.2⟩).halts
    fun e w h => Or.inl ⟨hKJ s w h.1.1.1, h.2⟩) fun r => ?_
  obtain ⟨observedAt, attributed⟩ := r
  set Attributed : World → Prop := fun w => ∃ find, (F s raw find w ∧ s.takenAt ≤ w.time) ∧
    S ⟨find, scanMempoolTransactions raw⟩ ∧
      attributeScannedReceipts find tip config.webhookReportConfirmations observedAt
        (scanMempoolTransactions raw) = .ok attributed with hAttributed
  have hAs : Stable env Attributed :=
    Stable.ex fun find => ((hFs s raw find).and (Stable.since env s.takenAt)).fact _
  have hAJ : ∀ w, Attributed w → J w := fun w hw => by
    obtain ⟨find, hw, -⟩ := hw
    exact hKJ s w (hFK s raw find w hw.1)
  refine SyncTriple.bind (R := fun revoke w => Attributed w ∧ (revoke = true →
    revokeMissing = true ∧ ∃ t latest, s.takenAt ≤ t ∧ A (t, .latestTip latest) ∧ latest ≤ tip))
    (SyncTriple.pre (P := Attributed) ?_ fun w hw => ?_) fun revoke => ?_
  · refine SyncTriple.ite (fun hr => ?_) fun _ => SyncTriple.pure fun w hw => ⟨hw, by simp⟩
    refine ((confirmTip_rule hAs).post fun revoke w hw => ⟨hw.1, fun h => ⟨hr, ?_⟩⟩).halts
      fun e w h => Or.inl ⟨hAJ w h.1, h.2⟩
    obtain ⟨⟨find, hF, -⟩, hlatest⟩ := hw
    obtain ⟨latest, hA, hle⟩ := hlatest h
    exact ⟨w.time, latest, hF.2, hA, hle⟩
  · obtain ⟨find, hF, hS, hatt⟩ := hw
    exact ⟨find, hF.1, hS, hatt⟩
  · refine SyncTriple.bind (R := J₁) ((transaction_rule (hAs.fact _)
      fun w now out db hw hok => ?_).halts fun e w h => Or.inl ⟨hAJ w h.1.1, h.2⟩) fun out => ?_
    · obtain ⟨⟨find, hF, hS, hatt⟩, hrevoke⟩ := hw
      exact hop s raw find observedAt attributed revoke w out db hF.1 hS hatt hrevoke hok
    · exact ((queue_rule (R := fun _ => J' out.affectedAddressIds) (hs₁ out) (hq out)).halts
        fun e w h => Or.inr ⟨out, h⟩).bind fun _ => SyncTriple.pure fun w hw => hw

end stages

/-! ### Properties of the receipts and the scanned height -/

/-- The scanned height that is stored. -/
def Db.scanned (db : Db) : Option ℤ := db.metadata.map (·.lastScannedHeight)

/-- A property that depends on the receipts and the stored scanned height only. -/
def OfLedger (I : Db → Prop) : Prop :=
  ∀ ⦃db db' : Db⦄, db'.receipts = db.receipts → db'.scanned = db.scanned → I db → I db'

section ofLedger

variable {I K : Db → Prop} {awaiting : Await}

lemma OfLedger.and (hI : OfLedger I) (hK : OfLedger K) : OfLedger fun db => I db ∧ K db :=
  fun _ _ hr hs h => ⟨hI hr hs h.1, hK hr hs h.2⟩

lemma OfLedger.stable (hI : OfLedger I) : Stable env fun w => I w.db := by
  refine Stable.of_db fun new createdAt db a db' hw h => ?_
  obtain ⟨_, _, hdb⟩ := allocateFreshAddress_ok h
  have hr : db'.receipts = db.receipts := by rw [hdb]
  have hs : db'.scanned = db.scanned := by
    rw [hdb]
    rfl
  exact hI hr hs hw

/-- A transaction that writes neither. -/
lemma OfLedger.frame_rule (hI : OfLedger I) {op : Timestamp → Db → Except AppError (α × Db)}
    (hop : ∀ now db a db', op now db = .ok (a, db') → db'.receipts = db.receipts ∧
      db'.scanned = db.scanned) :
    SyncTriple A S (fun w => I w.db) (transaction env awaiting op) (fun _ w => I w.db)
      fun _ w => I w.db := by
  refine (transaction_rule hI.stable fun w now a db hw hok => ?_).halts fun e w hw => hw.1
  exact hI (hop _ _ _ _ hok).1 (hop _ _ _ _ hok).2 hw

lemma queue_frame_scanned (now : Timestamp) (ids : List ℕ) (db : Db) :
    (queueWebhookDeliveriesForDirtyAddresses now ids db).2.receipts = db.receipts ∧
      (queueWebhookDeliveriesForDirtyAddresses now ids db).2.scanned = db.scanned := by
  obtain ⟨totals, deliveries, h⟩ := queue_frame now ids db
  rw [h]
  exact ⟨rfl, rfl⟩

lemma OfLedger.queue_rule (hI : OfLedger I) {ids : List ℕ} :
    SyncTriple A S (fun w => I w.db) (queueWebhookDeliveries env awaiting ids) (fun _ w => I w.db)
      fun _ w => I w.db := by
  refine hI.frame_rule fun now db a db' h => ?_
  have hdb : (queueWebhookDeliveriesForDirtyAddresses now ids db).2 = db' := by
    rw [Except.ok.inj h]
  exact hdb ▸ queue_frame_scanned now ids db

lemma OfLedger.logReorg_rule (hI : OfLedger I) {metadata : ServiceMetadata} {tip rewind : ℕ}
    {reorg : ReceiptRangeReconciliation} {queued : List ℕ} :
    SyncTriple A S (fun w => I w.db) (logReorg env metadata tip rewind reorg queued)
      (fun _ w => I w.db) fun _ w => I w.db := by
  unfold logReorg
  refine SyncTriple.ite (fun _ => hI.frame_rule fun now db a db' h => ?_)
    fun _ => SyncTriple.pure fun w hw => hw
  obtain ⟨db₁, hok, heq⟩ := map_ok h
  cases heq
  obtain ⟨events, rfl⟩ := recordReorgEvent_ok hok
  exact ⟨rfl, rfl⟩

/-- A status that stores a scanned height. -/
lemma status_rule {I K : Db → Prop} (hI : OfLedger I) {state : SyncState} {reason : String}
    {tip L : ℤ} (hK : ∀ db db', I db → db'.receipts = db.receipts → db'.scanned = some L → K db') :
    SyncTriple A S (fun w => I w.db)
      (transaction env awaiting fun now => recordSyncStatus state reason tip L now)
      (fun _ w => K w.db) fun _ w => I w.db := by
  refine (transaction_rule hI.stable fun w now m db hw hok => ?_).halts fun e w hw => hw.1
  obtain ⟨current, transitions, -, rfl, hscanned, -⟩ := recordSyncStatus_ok hok
  exact hK w.db _ hw rfl (by simp [World.committed, Db.scanned, hscanned])

lemma applyRequired_frame (db : Db) (required : Option ℕ) :
    (applyRequiredConfirmations db required).receipts = db.receipts ∧
      (applyRequiredConfirmations db required).scanned = db.scanned := by
  unfold applyRequiredConfirmations
  split_ifs
  · exact ⟨rfl, rfl⟩
  · refine ⟨rfl, ?_⟩
    simp only [Db.scanned, Option.map_map]
    rfl

/-- Reading the metadata row of a service that has one. -/
lemma OfLedger.readMetadata_rule (hI : OfLedger I) {L : ℤ}
    (hL : ∀ db, I db → db.scanned = some L) :
    SyncTriple A S (fun w => I w.db) (readMetadata env config)
      (fun metadata w => I w.db ∧ metadata.lastScannedHeight = L) fun _ w => I w.db := by
  refine SyncTriple.bind
    (R := fun (m : ServiceMetadata) w => I w.db ∧ m.lastScannedHeight = L)
    ((transaction_rule hI.stable fun w now m db hw hok => ?_).halts fun e w hw => hw.1) fun m => ?_
  · obtain ⟨rfl, hm⟩ := ensureServiceMetadataRow_ok hok
    have hst := hL _ hw
    rcases hm with hm | ⟨hm, -⟩
    · have hLm : m.lastScannedHeight = L := by
        rw [Db.scanned, hm] at hst
        exact Option.some.inj hst
      have hr : ({ w.db with metadata := some m } : Db).receipts = w.db.receipts := rfl
      have hs : ({ w.db with metadata := some m } : Db).scanned = w.db.scanned := by
        rw [hst]
        simp [Db.scanned, hLm]
      exact ⟨hI hr hs hw, hLm⟩
    · rw [Db.scanned, hm] at hst
      cases hst
  · have hIm : OfLedger fun db => I db ∧ m.lastScannedHeight = L :=
      hI.and fun _ _ _ _ h => h
    refine ((hIm.frame_rule fun now db a db' hok => ?_).halts fun _ _ hw => hw.1).bind
      fun _ => SyncTriple.pure fun w hw => hw
    cases hok
    exact applyRequired_frame db _

lemma Pending.commit_scanned {p : Pending} {tip : ℤ} {finality : ℕ} {now : Timestamp}
    {label : String} {db db' : Db} (h : p.commit tip finality now label db = .ok db') :
    db'.scanned = db.scanned := by
  rw [Pending.commit_ok h]
  rfl

end ofLedger

/-! ### The loop over the batches -/

/-- Where the loop goes on after a batch. -/
lemma nextScanBatch_after {batch next : ScanBatch} {final size : ℕ} (hf : final ≤ u32Max)
    (hb : batch.endHeight ≤ final)
    (h : nextScanBatch (saturatingAdd batch.endHeight 1) final size = some next) :
    (next.startHeight = batch.endHeight + 1 ∨ next.startHeight = batch.endHeight) ∧
      next.startHeight ≤ next.endHeight ∧ next.endHeight ≤ final := by
  obtain ⟨h1, h2, h3⟩ := nextScanBatch_eq h hf
  refine ⟨?_, h1 ▸ h2, h3⟩
  rw [h1]
  unfold saturatingAdd
  omega

lemma nextScanBatch_last {batch : ScanBatch} {final size : ℕ} (hb : batch.endHeight ≤ final)
    (h : nextScanBatch (saturatingAdd batch.endHeight 1) final size = none) :
    batch.endHeight = final ∧ final < u32Max := by
  unfold nextScanBatch saturatingAdd at h
  split_ifs at h with hn
  omega

/-- **The loop**: `Jb n` says what holds when the heights below `n` are scanned. The loop
returns at the final height only, which is then not the largest `u32`. -/
lemma batches_rule {tip final size : ℕ} (first : ℕ) (Jb : ℕ → World → Prop)
    (hf : final ≤ u32Max)
    (hbody : ∀ batch, first ≤ batch.startHeight → batch.startHeight ≤ batch.endHeight →
      batch.endHeight ≤ final → SyncTriple A S (Jb batch.startHeight)
        (scanBatch env config tip batch) (fun _ => Jb (batch.endHeight + 1)) E)
    (hmono : ∀ n w, Jb (n + 1) w → Jb n w) (hstuck : ∀ n w, Jb n w → E .stuck w) (fuel : ℕ)
    (ids : List ℕ) {batch : ScanBatch} (h1 : first ≤ batch.startHeight)
    (h2 : batch.startHeight ≤ batch.endHeight) (h3 : batch.endHeight ≤ final) :
    SyncTriple A S (Jb batch.startHeight)
      (scanBatchesWithPipeline env config tip final size fuel ids batch)
      (fun r w => r.2 = final ∧ final < u32Max ∧ Jb (final + 1) w) E := by
  induction fuel generalizing ids batch with
  | zero => exact SyncTriple.stop fun w hw => hstuck _ w hw
  | succ fuel ih =>
    refine (hbody batch h1 h2 h3).bind fun affected => ?_
    rcases h : nextScanBatch (saturatingAdd batch.endHeight 1) final size with _ | next
    · obtain ⟨hend, hlt⟩ := nextScanBatch_last h3 h
      exact SyncTriple.pure fun w hw => ⟨hend, hlt, hend ▸ hw⟩
    · obtain ⟨hs, hle, hfin⟩ := nextScanBatch_after hf h3 h
      refine (ih (ids ++ affected) (by omega) hle hfin).pre fun w hw => ?_
      rcases hs with hs | hs
      · exact hs ▸ hw
      · exact hs ▸ hmono _ w hw

/-! ### The records only grow -/

/-- What every moment, record and commit keeps. -/
structure Recorded (env : Env) (J : World → Prop) : Prop extends Stable env J where
  commit : ∀ w t db, J w → J { w with db, history := (t, db) :: w.history }

/-- The program keeps `J` however it ends. -/
def Keeps {α : Type} (J : World → Prop) (m : SyncM α) : Prop := ∀ w, J w → J (m w).2

section keeps

variable {tip : ℕ} {awaiting : Await} {metadata : ServiceMetadata}

lemma Keeps.bind {k : α → SyncM β} (hm : Keeps J m) (hk : ∀ a, Keeps J (k a)) :
    Keeps J (m >>= k) := by
  intro w hw
  have h : Triple J m (fun _ => J) fun _ => J := by
    intro s hs
    have := hm s hs
    rcases hr : m s with ⟨_ | _, s'⟩ <;> rw [hr] at this <;> exact this
  refine (h.bind (k := k) fun a s hs => ?_).final hw
  have := hk a s hs
  rcases hr : k a s with ⟨_ | _, s'⟩ <;> rw [hr] at this <;> exact this

lemma Keeps.pure {a : α} : Keeps J (Pure.pure a : SyncM α) := fun _ hw => hw

lemma Keeps.stop {e : Halt} : Keeps J (Prog.stop e : SyncM α) := fun _ hw => hw

lemma Keeps.get : Keeps J (Prog.get : SyncM World) := fun _ hw => hw

lemma Keeps.ite {c : Prop} [Decidable c] {m₁ m₂ : SyncM α} (h₁ : Keeps J m₁) (h₂ : Keeps J m₂) :
    Keeps J (if c then m₁ else m₂) := by
  split_ifs
  exacts [h₁, h₂]

variable (hJ : Recorded env J)
include hJ

lemma Recorded.tick_keeps : Keeps J (tick env) := fun w hw => hJ.tick w hw

lemma Recorded.await {ask : ℕ → Except AppError α} {answer : α → Answer} :
    Keeps J (await env awaiting ask answer) := by
  refine hJ.tick_keeps.bind fun t => ?_
  rcases ask t with e | a
  · exact Keeps.stop
  · exact Keeps.bind (fun w hw => hJ.answer w _ hw) fun _ => Keeps.pure

lemma Recorded.transaction {op : Timestamp → Db → Except AppError (α × Db)} :
    Keeps J (transaction env awaiting op) := by
  refine hJ.tick_keeps.bind fun t w hw => ?_
  unfold commitAt
  rcases op (env.clock t) w.db with e | ⟨a, db⟩
  · exact hw
  · exact hJ.commit w t db hw

lemma Recorded.queue {ids : List ℕ} : Keeps J (queueWebhookDeliveries env awaiting ids) :=
  hJ.transaction

lemma Recorded.attribute {receipts : List IncomingReceipt} :
    Keeps J (attributeReceipts env config awaiting tip receipts) := by
  refine Keeps.bind (hJ.tick_keeps.bind fun _ => Keeps.pure) fun observedAt =>
    Keeps.get.bind fun w => Keeps.bind (fun w hw => hJ.scan w _ hw) fun _ => ?_
  rcases attributeScannedReceipts (findAddressIdByReceiverFingerprint w.db) tip
    config.webhookReportConfirmations observedAt receipts with e | attributed
  · exact Keeps.stop
  · exact Keeps.pure

lemma Recorded.reconcileRange {batch : ScanBatch} :
    Keeps J (reconcileRange env config awaiting tip batch) := by
  refine Keeps.bind ?_ fun blocks => hJ.attribute.bind fun r => hJ.transaction
  exact Keeps.ite Keeps.pure (hJ.await.bind fun _ => Keeps.pure)

lemma Recorded.scanBatch {batch : ScanBatch} : Keeps J (scanBatch env config tip batch) :=
  hJ.reconcileRange.bind fun _ => hJ.queue.bind fun _ => hJ.transaction.bind fun _ => Keeps.pure

lemma Recorded.batches {final size fuel : ℕ} {ids : List ℕ} {batch : ScanBatch} :
    Keeps J (scanBatchesWithPipeline env config tip final size fuel ids batch) := by
  induction fuel generalizing ids batch with
  | zero => exact Keeps.stop
  | succ fuel ih =>
    refine hJ.scanBatch.bind fun affected => ?_
    rcases nextScanBatch (saturatingAdd batch.endHeight 1) final size with _ | next
    · exact Keeps.pure
    · exact ih

lemma Recorded.mempool {revokeMissing : Bool} :
    Keeps J (reconcileCurrentMempool env config tip revokeMissing) := by
  refine hJ.await.bind fun txids => Keeps.get.bind fun w => ?_
  refine Keeps.bind (Keeps.ite Keeps.pure hJ.await) fun raw => hJ.attribute.bind fun r => ?_
  refine Keeps.bind (Keeps.ite ?_ Keeps.pure) fun revoke => ?_
  · refine hJ.tick_keeps.bind fun t => ?_
    rcases env.latestBlockHeight t with e | latest
    · exact Keeps.pure
    · exact Keeps.bind (fun w hw => hJ.answer w _ hw) fun _ => Keeps.pure
  · exact hJ.transaction.bind fun out => hJ.queue.bind fun _ => Keeps.pure

lemma Recorded.finish {L : ℕ} {observed : List ℕ} :
    Keeps J (finishSync env config tip L observed) := by
  refine Keeps.bind (hJ.transaction.bind fun _ => hJ.queue.bind fun _ => Keeps.pure)
    fun matured => ?_
  exact Keeps.bind (Keeps.ite hJ.mempool Keeps.pure) fun _ =>
    hJ.transaction.bind fun _ => Keeps.pure

/-- **The iteration keeps what moments, records and commits keep.** -/
lemma Recorded.syncAt {birthday : ℕ} : Keeps J (syncAt env config birthday metadata tip) := by
  refine Keeps.bind (Keeps.ite hJ.transaction Keeps.pure) fun cleanup => ?_
  refine Keeps.bind ?_ fun overlap => hJ.queue.bind fun queued => ?_
  · unfold reconcileOverlap
    split
    · exact hJ.reconcileRange
    · exact Keeps.pure
  refine Keeps.bind (Keeps.ite hJ.transaction Keeps.pure) fun _ => ?_
  refine Keeps.bind ?_ fun _ => Keeps.bind ?_ fun forward => ?_
  · unfold markCatchingUp
    split
    · exact hJ.transaction.bind fun _ => Keeps.pure
    · exact Keeps.pure
  · unfold scanForward
    split
    · exact hJ.batches
    · exact Keeps.pure
  · exact hJ.finish

end keeps

/-- The records of `w₀` are still there. -/
def World.Extends (w₀ w : World) : Prop := w₀.answers ⊆ w.answers ∧ w₀.scans ⊆ w.scans

lemma extends_recorded (env : Env) (w₀ : World) : Recorded env w₀.Extends where
  tick _ hw := hw
  answer _ _ hw := ⟨fun _ hx => List.mem_cons_of_mem _ (hw.1 hx), hw.2⟩
  scan _ _ hw := ⟨hw.1, fun _ hx => List.mem_cons_of_mem _ (hw.2 hx)⟩
  commit _ _ _ hw := hw

lemma World.Within.of_extends {w₀ w : World} (h : w₀.Extends w) (hw : w.Within A S) :
    w₀.Within A S :=
  ⟨fun a ha => hw.answers a (h.1 ha), fun s hs => hw.scans s (h.2 hs)⟩

/-- A fact that follows from the answers may be used by a program that keeps the records. -/
lemma SyncTriple.of_fact {φ : Prop} (hm : ∀ w₀ : World, Keeps w₀.Extends m)
    (h : φ → SyncTriple A S P m Q E) : SyncTriple A S (fun w => P w ∧ φ) m Q E := by
  by_cases hφ : φ
  · exact (h hφ).pre fun w hw => hw.1
  · intro w hw
    have hext := hm w w ⟨fun _ hx => hx, fun _ hx => hx⟩
    rcases hr : m w with ⟨e | a, w'⟩ <;> rw [hr] at hext
    · exact fun hin => absurd (hw (hin.of_extends hext)).2 hφ
    · exact fun hin => absurd (hw (hin.of_extends hext)).2 hφ

end ZcashPayment

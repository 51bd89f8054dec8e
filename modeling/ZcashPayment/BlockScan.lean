import Mathlib.Data.String.Basic
import ZcashPayment.AddressAllocation
import ZcashPayment.Initialize
import ZcashPayment.Scan
import ZcashPayment.TaskPool

/-!
How compact blocks are scanned, one after the other or on a pool of threads.

Trial decryption is the wallet library's: a function from a network and a block to what the
viewing keys open in it, or a failure. Around it stands the code's: spam transactions are dropped
before a block is given to the library, output indices have to fit `u16`, and receipts are sorted.
What comes out is the scan the ledger is fed with.
-/

namespace ZcashPayment.BlockScan

open Relation

variable {Output Action : Type}

structure CompactTx (Output Action : Type) where
  txid : Bytes
  outputs : List Output
  actions : List Action
  ironwoodActions : List Action

structure CompactBlock (Output Action : Type) where
  height : ℕ
  vtx : List (CompactTx Output Action)

inductive ValuePool | orchard | ironwood
  deriving DecidableEq, Repr

/-- An output that the viewing keys open. -/
structure OpenedOutput where
  index : ℕ
  value : ℕ
  recipient : Bytes
  deriving DecidableEq, Repr

structure ScannedTx where
  txid : String
  saplingOutputs : List OpenedOutput
  orchardOutputs : List (ValuePool × OpenedOutput)
  ironwoodOutputs : List (ValuePool × OpenedOutput)
  deriving DecidableEq, Repr

structure ScannedBlock where
  height : ℕ
  transactions : List ScannedTx
  deriving DecidableEq, Repr

/-- `scan_block` of the wallet library, for the keys of a wallet. -/
abbrev ScanBlock (Output Action : Type) :=
  Network → CompactBlock Output Action → Except String ScannedBlock

/-! ### The spam window -/

def mainnetSpamFilterStartHeight : ℕ := 1710000

def mainnetSpamFilterEndHeight : ℕ := 2050000

def spamFilterOutputThreshold : ℕ := 50

def compactTxShieldedOutputs (tx : CompactTx Output Action) : ℕ :=
  tx.outputs.length + tx.actions.length + tx.ironwoodActions.length

/-- Returns the block that is left, and how many transactions were dropped. -/
def applySpamFilter (network : Network) (block : CompactBlock Output Action) :
    CompactBlock Output Action × ℕ :=
  if network ≠ .mainNetwork then (block, 0)
  else
    let inWindow := match u32TryFrom block.height with
      | some height =>
        mainnetSpamFilterStartHeight ≤ height && height ≤ mainnetSpamFilterEndHeight
      | none => false
    if !inWindow then (block, 0)
    else
      let before := block.vtx.length
      let vtx := block.vtx.filter fun tx =>
        compactTxShieldedOutputs tx ≤ spamFilterOutputThreshold
      ({ block with vtx }, before - vtx.length)

/-! ### One block -/

def u16Max : ℕ := 2 ^ 16 - 1

def shieldedPoolName : ValuePool → Pool
  | .orchard => .orchard
  | .ironwood => .ironwood

/-- `name` is the bundle the output stands in, as the error has it. -/
def outputReceipt (txidHex : String) (minedHeight : ℕ) (name : String) (pool : Pool)
    (output : OpenedOutput) : Except AppError IncomingReceipt :=
  if output.index > u16Max then .error (.wallet s!"{name} output index overflowed u16")
  else .ok {
    txidHex
    minedHeight
    isMempool := false
    pool
    outputIndex := output.index
    valueZat := output.value
    receiverFingerprint := Allocation.receiverFingerprint output.recipient }

def bundleReceipts (txidHex : String) (minedHeight : ℕ) (name : String)
    (notes : List (Pool × OpenedOutput)) : Except AppError (List IncomingReceipt) :=
  notes.mapM fun note => outputReceipt txidHex minedHeight name note.1 note.2

def ScannedTx.sapling (tx : ScannedTx) : List (Pool × OpenedOutput) :=
  tx.saplingOutputs.map fun output => (.sapling, output)

def ScannedTx.orchard (tx : ScannedTx) : List (Pool × OpenedOutput) :=
  tx.orchardOutputs.map fun note => (shieldedPoolName note.1, note.2)

def ScannedTx.ironwood (tx : ScannedTx) : List (Pool × OpenedOutput) :=
  tx.ironwoodOutputs.map fun note => (shieldedPoolName note.1, note.2)

def scannedTxReceipts (minedHeight : ℕ) (tx : ScannedTx) :
    Except AppError (List IncomingReceipt) := do
  let sapling ← bundleReceipts tx.txid minedHeight "sapling" tx.sapling
  let orchard ← bundleReceipts tx.txid minedHeight "orchard" tx.orchard
  let ironwood ← bundleReceipts tx.txid minedHeight "ironwood" tx.ironwood
  return sapling ++ orchard ++ ironwood

def scanOneCompactBlock (scanBlock : ScanBlock Output Action) (network : Network)
    (block : CompactBlock Output Action) : Except AppError (List IncomingReceipt × ScannedBlock) :=
  match scanBlock network (applySpamFilter network block).1 with
  | .error error => .error (.wallet s!"failed to scan compact block: {error}")
  | .ok scannedBlock => do
    let receipts ← scannedBlock.transactions.mapM (scannedTxReceipts scannedBlock.height)
    return (receipts.flatten, scannedBlock)

/-! ### A batch of blocks -/

structure ScannedCompactBlockBatch where
  receipts : List IncomingReceipt
  scannedBlocks : List ScannedBlock
  deriving DecidableEq, Repr

def collectBatch (perBlock : List (List IncomingReceipt × ScannedBlock)) :
    ScannedCompactBlockBatch where
  receipts := sortReceipts (perBlock.flatMap (·.1))
  scannedBlocks := perBlock.map (·.2)

/-- The blocks one after the other. -/
def scanCompactBlocksWithScanningKeys (scanBlock : ScanBlock Output Action) (networkName : String)
    (blocks : List (CompactBlock Output Action)) : Except AppError ScannedCompactBlockBatch := do
  let network ← consensusNetwork networkName
  let perBlock ← blocks.mapM (scanOneCompactBlock scanBlock network)
  return collectBatch perBlock

/-- What a scan may return, with a pool of `threads` when there is one. On a pool the blocks go
through rayon's `into_par_iter().map(..).collect::<Result<Vec<_>, _>>()`. That library is not part
of this code; `TaskPool` is its collection as documented: each block is scanned at most once and
in no set order, the results stand in the order of the blocks, and one of the failures is
returned when there is any. -/
inductive ScanCompactBlocksInPool (scanBlock : ScanBlock Output Action) (networkName : String)
    (blocks : List (CompactBlock Output Action)) (threads : Option ℕ) :
    Except AppError ScannedCompactBlockBatch → Prop
  | unknownNetwork {e : AppError} (h : consensusNetwork networkName = .error e) :
      ScanCompactBlocksInPool scanBlock networkName blocks threads (.error e)
  | serial {network : Network} (h : consensusNetwork networkName = .ok network)
      (hone : (∀ n, threads = some n → n ≤ 1) ∨ blocks.length ≤ 1) :
      ScanCompactBlocksInPool scanBlock networkName blocks threads
        ((blocks.mapM (scanOneCompactBlock scanBlock network)).map collectBatch)
  | parallel {network : Network} {n : ℕ}
      {s : TaskPool.State (List IncomingReceipt × ScannedBlock) AppError}
      (h : consensusNetwork networkName = .ok network) (hn : threads = some n) (hmany : 1 < n)
      (hblocks : 1 < blocks.length)
      (hrun : ReflTransGen (TaskPool.Step (scanOneCompactBlock scanBlock network) blocks)
        (.initial blocks) s) (hover : s.over = true) :
      ScanCompactBlocksInPool scanBlock networkName blocks threads (s.returned.map collectBatch)

/-! ### What one block gives -/

def openedOutput (pool : Pool) (output : OpenedOutput) : WalletOutput where
  pool
  outputIndex := output.index
  valueZat := output.value
  receiverFingerprint := Allocation.receiverFingerprint output.recipient

def ScannedTx.outputs (tx : ScannedTx) : List (Pool × OpenedOutput) :=
  tx.sapling ++ tx.orchard ++ tx.ironwood

/-- The block as the scan of the ledger has it. -/
def ScannedBlock.opened (block : ScannedBlock) : ZcashPayment.CompactBlock where
  height := block.height
  transactions := block.transactions.map fun tx =>
    ⟨tx.txid, tx.outputs.map fun o => openedOutput o.1 o.2⟩

def ScannedTx.IndicesFit (tx : ScannedTx) : Prop :=
  ∀ o ∈ tx.outputs, o.2.index ≤ u16Max

def ScannedBlock.IndicesFit (block : ScannedBlock) : Prop :=
  ∀ tx ∈ block.transactions, tx.IndicesFit

variable {scanBlock : ScanBlock Output Action} {network : Network} {networkName : String}
  {block : CompactBlock Output Action} {blocks : List (CompactBlock Output Action)}

/-- A loop that fails at the items that are refused. -/
lemma mapM_eq_ok_iff {α β ε : Type} {f : α → Except ε β} {P : α → Prop} {g : α → β}
    (hok : ∀ a, P a → f a = .ok (g a)) (herror : ∀ a, ¬P a → ∃ e, f a = .error e) {l : List α}
    {r : List β} : l.mapM f = .ok r ↔ (∀ a ∈ l, P a) ∧ r = l.map g := by
  have hmap : (∀ a ∈ l, P a) → l.mapM f = .ok (l.map g) := by
    intro h
    apply TaskPool.mapM_ok_of_forall₂
    apply List.forall₂_map_right_iff.mpr
    exact List.forall₂_same.mpr fun a ha => hok a (h a ha)
  constructor
  · intro h
    have hall : ∀ a ∈ l, P a := by
      intro a ha
      by_contra hn
      obtain ⟨e, he⟩ := herror a hn
      obtain ⟨e', hm⟩ := TaskPool.mapM_error ha he
      rw [hm] at h
      cases h
    rw [hmap hall] at h
    exact ⟨hall, (Except.ok.inj h).symm⟩
  · rintro ⟨hall, rfl⟩
    exact hmap hall

/-- The receipt of an output whose index fits. -/
def receiptOf (txidHex : String) (minedHeight : ℕ) (pool : Pool) (output : OpenedOutput) :
    IncomingReceipt where
  txidHex
  minedHeight
  isMempool := false
  pool
  outputIndex := output.index
  valueZat := output.value
  receiverFingerprint := Allocation.receiverFingerprint output.recipient

lemma bundleReceipts_ok {txid name : String} {height : ℕ} {notes : List (Pool × OpenedOutput)}
    {r : List IncomingReceipt} : bundleReceipts txid height name notes = .ok r ↔
      (∀ note ∈ notes, note.2.index ≤ u16Max) ∧
      r = notes.map fun note => receiptOf txid height note.1 note.2 := by
  apply mapM_eq_ok_iff
  · intro note hnote
    exact if_neg (by omega)
  · intro note hnote
    exact ⟨_, if_pos (by omega)⟩

/-- **The receipts of a transaction**: those of its outputs, or none if an index does not fit. -/
lemma scannedTxReceipts_ok {height : ℕ} {tx : ScannedTx} {r : List IncomingReceipt} :
    scannedTxReceipts height tx = .ok r ↔ tx.IndicesFit ∧
      r = txReceipts height false ⟨tx.txid, tx.outputs.map fun o => openedOutput o.1 o.2⟩ := by
  have hfit : tx.IndicesFit ↔ (∀ note ∈ tx.sapling, note.2.index ≤ u16Max) ∧
      (∀ note ∈ tx.orchard, note.2.index ≤ u16Max) ∧
      ∀ note ∈ tx.ironwood, note.2.index ≤ u16Max := by
    simp only [ScannedTx.IndicesFit, ScannedTx.outputs, List.forall_mem_append, and_assoc]
  have hreceipts : txReceipts height false
      ⟨tx.txid, tx.outputs.map fun o => openedOutput o.1 o.2⟩ =
      (tx.sapling.map fun note => receiptOf tx.txid height note.1 note.2) ++
        (tx.orchard.map fun note => receiptOf tx.txid height note.1 note.2) ++
        tx.ironwood.map fun note => receiptOf tx.txid height note.1 note.2 := by
    simp [txReceipts, ScannedTx.outputs, openedOutput, receiptOf, Function.comp_def]
  rw [hreceipts, hfit]
  unfold scannedTxReceipts
  constructor
  · intro h
    obtain ⟨sapling, hs, h⟩ := bind_ok h
    obtain ⟨orchard, ho, h⟩ := bind_ok h
    obtain ⟨ironwood, hi, h⟩ := bind_ok h
    cases h
    obtain ⟨hsfit, rfl⟩ := bundleReceipts_ok.mp hs
    obtain ⟨hofit, rfl⟩ := bundleReceipts_ok.mp ho
    obtain ⟨hifit, rfl⟩ := bundleReceipts_ok.mp hi
    exact ⟨⟨hsfit, hofit, hifit⟩, rfl⟩
  · rintro ⟨⟨hsfit, hofit, hifit⟩, rfl⟩
    rw [bundleReceipts_ok.mpr ⟨hsfit, rfl⟩, bundleReceipts_ok.mpr ⟨hofit, rfl⟩,
      bundleReceipts_ok.mpr ⟨hifit, rfl⟩]
    rfl

/-- **What scanning a block returns**, when the library opens it. -/
lemma scanOneCompactBlock_ok {r : List IncomingReceipt × ScannedBlock} :
    scanOneCompactBlock scanBlock network block = .ok r ↔
      scanBlock network (applySpamFilter network block).1 = .ok r.2 ∧ r.2.IndicesFit ∧
      r.1 = ZcashPayment.scanOneCompactBlock r.2.opened := by
  have hiff : ∀ scanned : ScannedBlock, ∀ receipts : List (List IncomingReceipt),
      scanned.transactions.mapM (scannedTxReceipts scanned.height) = .ok receipts ↔
        scanned.IndicesFit ∧ receipts = scanned.transactions.map fun tx =>
          txReceipts scanned.height false
            ⟨tx.txid, tx.outputs.map fun o => openedOutput o.1 o.2⟩ := by
    intro scanned receipts
    apply mapM_eq_ok_iff
    · intro tx htx
      exact scannedTxReceipts_ok.mpr ⟨htx, rfl⟩
    · intro tx htx
      rcases h : scannedTxReceipts scanned.height tx with e | r
      · exact ⟨e, rfl⟩
      · exact absurd (scannedTxReceipts_ok.mp h).1 htx
  have hopened : ∀ scanned : ScannedBlock, ZcashPayment.scanOneCompactBlock scanned.opened =
      (scanned.transactions.map fun tx => txReceipts scanned.height false
        ⟨tx.txid, tx.outputs.map fun o => openedOutput o.1 o.2⟩).flatten := by
    intro scanned
    simp [ZcashPayment.scanOneCompactBlock, ScannedBlock.opened, List.flatMap, Function.comp_def]
  obtain ⟨r, scanned⟩ := r
  unfold scanOneCompactBlock
  rcases hscan : scanBlock network (applySpamFilter network block).1 with error | scanned'
  · simp
  · dsimp only
    rw [hopened]
    constructor
    · intro h
      obtain ⟨receipts, hr, h⟩ := bind_ok h
      cases h
      obtain ⟨hfit, rfl⟩ := (hiff _ _).mp hr
      exact ⟨rfl, hfit, rfl⟩
    · rintro ⟨h, hfit, rfl⟩
      cases h
      rw [(hiff _ _).mpr ⟨hfit, rfl⟩]
      rfl

/-! ### A pool scans like a loop -/

/-- What a batch says of the blocks it was scanned from. -/
structure ScannedFrom (scanBlock : ScanBlock Output Action) (network : Network)
    (blocks : List (CompactBlock Output Action)) (batch : ScannedCompactBlockBatch) : Prop where
  opened : blocks.Forall₂ (fun block scanned =>
    scanBlock network (applySpamFilter network block).1 = .ok scanned ∧ scanned.IndicesFit)
    batch.scannedBlocks
  receipts : batch.receipts = scanCompactBlocks (batch.scannedBlocks.map ScannedBlock.opened)

lemma forall₂_of_mapM {α β ε : Type} {f : α → Except ε β} {l : List α} {r : List β}
    (h : l.mapM f = .ok r) : l.Forall₂ (fun a b => f a = .ok b) r := by
  induction l generalizing r with
  | nil =>
    cases h
    exact .nil
  | cons a l ih =>
    rw [List.mapM_cons] at h
    obtain ⟨b, hb, h⟩ := bind_ok h
    obtain ⟨bs, hbs, h⟩ := bind_ok h
    cases h
    exact .cons hb (ih hbs)

lemma scannedFrom_collectBatch {perBlock : List (List IncomingReceipt × ScannedBlock)}
    (h : blocks.mapM (scanOneCompactBlock scanBlock network) = .ok perBlock) :
    ScannedFrom scanBlock network blocks (collectBatch perBlock) := by
  have hall := forall₂_of_mapM h
  clear h
  suffices hs : blocks.Forall₂ (fun block scanned =>
      scanBlock network (applySpamFilter network block).1 = .ok scanned ∧ scanned.IndicesFit)
      (perBlock.map (·.2)) ∧ perBlock.flatMap (·.1) =
        ((perBlock.map (·.2)).map ScannedBlock.opened).flatMap ZcashPayment.scanOneCompactBlock by
    exact ⟨hs.1, congrArg sortReceipts hs.2⟩
  induction hall with
  | nil => exact ⟨.nil, rfl⟩
  | @cons block r blocks perBlock h _ ih =>
    obtain ⟨hscan, hfit, hr⟩ := scanOneCompactBlock_ok.mp h
    refine ⟨.cons ⟨hscan, hfit⟩ ih.1, ?_⟩
    simp only [List.flatMap_cons, List.map_cons]
    rw [hr, ih.2]

/-- A batch scanned on known ground. -/
lemma serial_eq (h : consensusNetwork networkName = .ok network) :
    scanCompactBlocksWithScanningKeys scanBlock networkName blocks =
      (blocks.mapM (scanOneCompactBlock scanBlock network)).map collectBatch := by
  have hbind : scanCompactBlocksWithScanningKeys scanBlock networkName blocks =
      blocks.mapM (scanOneCompactBlock scanBlock network) >>= fun perBlock =>
        .ok (collectBatch perBlock) := by
    unfold scanCompactBlocksWithScanningKeys
    rw [h]
    rfl
  rw [hbind]
  cases blocks.mapM (scanOneCompactBlock scanBlock network) <;> rfl

/-- How a scan ends, with a pool or without. -/
lemma ScanCompactBlocksInPool.cases {threads : Option ℕ}
    {result : Except AppError ScannedCompactBlockBatch}
    (h : ScanCompactBlocksInPool scanBlock networkName blocks threads result) :
    (∃ e, consensusNetwork networkName = .error e ∧ result = .error e) ∨
    ∃ network, consensusNetwork networkName = .ok network ∧
      ((∃ perBlock, blocks.mapM (scanOneCompactBlock scanBlock network) = .ok perBlock ∧
          result = .ok (collectBatch perBlock)) ∨
        ∃ block ∈ blocks, ∃ e, scanOneCompactBlock scanBlock network block = .error e ∧
          result = .error e ∧
          ∃ e', blocks.mapM (scanOneCompactBlock scanBlock network) = .error e') := by
  cases h with
  | unknownNetwork h => exact .inl ⟨_, h, rfl⟩
  | @serial network h hone =>
    refine .inr ⟨network, h, ?_⟩
    rcases hm : blocks.mapM (scanOneCompactBlock scanBlock network) with e | perBlock
    · obtain ⟨block, hblock, hfail⟩ := TaskPool.exists_error hm
      exact .inr ⟨block, hblock, e, hfail, rfl, e, rfl⟩
    · exact .inl ⟨perBlock, rfl, rfl⟩
  | @parallel network n s h hn hmany hblocks hrun hover =>
    refine .inr ⟨network, h, ?_⟩
    rcases TaskPool.returned_of_over hrun hover with
      ⟨perBlock, hm, hr⟩ | ⟨block, hblock, e, hfail, hr, e', hm⟩
    · exact .inl ⟨perBlock, hm, by rw [hr]; rfl⟩
    · exact .inr ⟨block, hblock, e, hfail, by rw [hr]; rfl, e', hm⟩

/-- **A pool scans like a loop**, in whatever order its threads take and finish the blocks: it
returns the same batch, whose receipts are those the ledger's scan has of the opened blocks, and
fails where the loop fails, with the failure of one of the blocks. Every pool can be run to its
end. -/
theorem pool_scan_is_serial (scanBlock : ScanBlock Output Action) (networkName : String)
    (blocks : List (CompactBlock Output Action)) (threads : Option ℕ)
    (result : Except AppError ScannedCompactBlockBatch)
    (h : ScanCompactBlocksInPool scanBlock networkName blocks threads result) :
    (∀ batch, result = .ok batch ↔
      scanCompactBlocksWithScanningKeys scanBlock networkName blocks = .ok batch) ∧
    (∀ batch, result = .ok batch → ∃ network, consensusNetwork networkName = .ok network ∧
      ScannedFrom scanBlock network blocks batch) ∧
    (∀ e, result = .error e → consensusNetwork networkName = .error e ∨
      ∃ network, consensusNetwork networkName = .ok network ∧ ∃ block ∈ blocks,
        scanOneCompactBlock scanBlock network block = .error e) ∧
    ∀ network s, ReflTransGen (TaskPool.Step (scanOneCompactBlock scanBlock network) blocks)
        (.initial blocks) s →
      ∃ s', ReflTransGen (TaskPool.Step (scanOneCompactBlock scanBlock network) blocks) s s' ∧
        s'.over = true := by
  refine ⟨fun batch => ?_, ?_, ?_, fun network s hrun => ?_⟩
  · rcases h.cases with ⟨e, hn, rfl⟩ | ⟨network, hn, ⟨perBlock, hm, rfl⟩ | h⟩
    · have hserial : scanCompactBlocksWithScanningKeys scanBlock networkName blocks = .error e := by
        unfold scanCompactBlocksWithScanningKeys
        rw [hn]
        rfl
      rw [hserial]
    · rw [serial_eq hn, hm]
      rfl
    · obtain ⟨-, -, e, -, rfl, e', hm⟩ := h
      rw [serial_eq hn, hm]
      simp [Except.map]
  · rintro batch rfl
    rcases h.cases with ⟨e, -, he⟩ | ⟨network, hn, ⟨perBlock, hm, hr⟩ | ⟨-, -, e, -, he, -⟩⟩
    · cases he
    · cases hr
      exact ⟨network, hn, scannedFrom_collectBatch hm⟩
    · cases he
  · rintro e rfl
    rcases h.cases with ⟨e', hn, he⟩ | ⟨network, hn, ⟨perBlock, -, hr⟩ | h⟩
    · cases he
      exact .inl hn
    · cases hr
    · obtain ⟨block, hblock, e', hfail, he, -⟩ := h
      cases he
      exact .inr ⟨network, hn, block, hblock, hfail⟩
  · exact TaskPool.exists_over ((TaskPool.inv_initial _ _).run hrun)

/-- A library that opens the Sapling outputs of a block. -/
def openSapling : ScanBlock Unit Unit := fun _ block =>
  .ok ⟨block.height, block.vtx.map fun tx => ⟨"t", tx.outputs.map fun _ => ⟨0, 7, [1]⟩, [], []⟩⟩

def paidBlock (height : ℕ) : CompactBlock Unit Unit := ⟨height, [⟨[], [()], [], []⟩]⟩

/-- What `openSapling` opens in a `paidBlock`. -/
def openedBlock (height : ℕ) : List IncomingReceipt × ScannedBlock :=
  ([receiptOf "t" height .sapling ⟨0, 7, [1]⟩], ⟨height, [⟨"t", [⟨0, 7, [1]⟩], [], []⟩]⟩)

lemma scanOne_paidBlock (height : ℕ) :
    scanOneCompactBlock openSapling .testNetwork (paidBlock height) = .ok (openedBlock height) :=
  rfl

/-- Two threads that take a block each; the second block is finished first. -/
lemma pool_out_of_order (a b : ℕ) :
    ScanCompactBlocksInPool openSapling "testnet" [paidBlock a, paidBlock b] (some 2)
      (.ok (collectBatch [openedBlock a, openedBlock b])) := by
  have hrun : ReflTransGen
      (TaskPool.Step (scanOneCompactBlock openSapling .testNetwork) [paidBlock a, paidBlock b])
      (.initial [paidBlock a, paidBlock b])
      ⟨[.done (openedBlock a), .done (openedBlock b)], none⟩ := by
    refine .head (.take (i := 0) rfl) (.head (.take (i := 1) rfl) ?_)
    refine .head (.finish (i := 1) rfl rfl (scanOne_paidBlock b)) ?_
    exact .single (.finish (i := 0) rfl rfl (scanOne_paidBlock a))
  exact .parallel (n := 2) rfl rfl (by decide) (by simp) hrun rfl

theorem pool_scan_is_serial_out_of_order :
    scanCompactBlocksWithScanningKeys openSapling "testnet" [paidBlock 4, paidBlock 5] =
      .ok (collectBatch [openedBlock 4, openedBlock 5]) :=
  ((pool_scan_is_serial openSapling "testnet" [paidBlock 4, paidBlock 5] (some 2) _
    (pool_out_of_order 4 5)).1 _).mp rfl

/-! ### Batches -/

lemma receiptLe_total (a b : IncomingReceipt) : receiptLe a b ∨ receiptLe b a := by
  unfold receiptLe
  rcases lt_trichotomy a.minedHeight b.minedHeight with h | h | h
  · exact .inl (.inl h)
  · rcases lt_trichotomy a.txidHex b.txidHex with ht | ht | ht
    · exact .inl (.inr ⟨h, .inl ht⟩)
    · rcases lt_trichotomy a.pool.name b.pool.name with hp | hp | hp
      · exact .inl (.inr ⟨h, .inr ⟨ht, .inl hp⟩⟩)
      · rcases le_total a.outputIndex b.outputIndex with ho | ho
        · exact .inl (.inr ⟨h, .inr ⟨ht, .inr ⟨hp, ho⟩⟩⟩)
        · exact .inr (.inr ⟨h.symm, .inr ⟨ht.symm, .inr ⟨hp.symm, ho⟩⟩⟩)
      · exact .inr (.inr ⟨h.symm, .inr ⟨ht.symm, .inl hp⟩⟩)
    · exact .inr (.inr ⟨h.symm, .inl ht⟩)
  · exact .inr (.inl h)

lemma receiptLe_trans {a b c : IncomingReceipt} (hab : receiptLe a b) (hbc : receiptLe b c) :
    receiptLe a c := by
  unfold receiptLe at *
  rcases hab with h | ⟨h, hab⟩
  · rcases hbc with h' | ⟨h', -⟩ <;> exact .inl (by omega)
  rcases hbc with h' | ⟨h', hbc⟩
  · exact .inl (by omega)
  refine .inr ⟨h.trans h', ?_⟩
  rcases hab with ht | ⟨ht, hab⟩
  · rcases hbc with ht' | ⟨ht', -⟩
    · exact .inl (ht.trans ht')
    · exact .inl (ht' ▸ ht)
  rcases hbc with ht' | ⟨ht', hbc⟩
  · exact .inl (ht ▸ ht')
  refine .inr ⟨ht.trans ht', ?_⟩
  rcases hab with hp | ⟨hp, hab⟩
  · rcases hbc with hp' | ⟨hp', -⟩
    · exact .inl (hp.trans hp')
    · exact .inl (hp' ▸ hp)
  rcases hbc with hp' | ⟨hp', hbc⟩
  · exact .inl (hp ▸ hp')
  · exact .inr ⟨hp.trans hp', hab.trans hbc⟩

instance : Std.Total receiptLe := ⟨receiptLe_total⟩

instance : IsTrans IncomingReceipt receiptLe := ⟨fun _ _ _ => receiptLe_trans⟩

/-- What comes after all others stays behind an insertion. -/
lemma orderedInsert_append {a : IncomingReceipt} {l later : List IncomingReceipt}
    (h : ∀ b ∈ later, receiptLe a b) :
    (l ++ later).orderedInsert receiptLe a = l.orderedInsert receiptLe a ++ later := by
  induction l with
  | nil =>
    cases later with
    | nil => rfl
    | cons b later => simp [List.orderedInsert, h b List.mem_cons_self]
  | cons b l ih =>
    simp only [List.cons_append, List.orderedInsert, ih]
    split_ifs <;> rfl

lemma sortReceipts_append {l later : List IncomingReceipt}
    (h : ∀ a ∈ l, ∀ b ∈ later, a.minedHeight < b.minedHeight) :
    sortReceipts (l ++ later) = sortReceipts l ++ sortReceipts later := by
  induction l with
  | nil => rfl
  | cons a l ih =>
    have hlater : ∀ b ∈ sortReceipts later, receiptLe a b := by
      intro b hb
      exact .inl (h a List.mem_cons_self b (mem_sortReceipts.mp hb))
    calc sortReceipts (a :: l ++ later)
        = (sortReceipts (l ++ later)).orderedInsert receiptLe a := rfl
      _ = (sortReceipts l ++ sortReceipts later).orderedInsert receiptLe a := by
          rw [ih fun b hb => h b (List.mem_cons_of_mem _ hb)]
      _ = (sortReceipts l).orderedInsert receiptLe a ++ sortReceipts later :=
          orderedInsert_append hlater

@[simp] lemma applySpamFilter_height (network : Network) (block : CompactBlock Output Action) :
    (applySpamFilter network block).1.height = block.height := by
  unfold applySpamFilter
  dsimp only
  split_ifs <;> rfl

/-- A receipt has the height of a block, if the library keeps the heights. -/
lemma height_of_mem_perBlock {perBlock : List (List IncomingReceipt × ScannedBlock)}
    (hheight : ∀ block scanned, scanBlock network block = .ok scanned →
      scanned.height = block.height)
    (h : blocks.mapM (scanOneCompactBlock scanBlock network) = .ok perBlock) :
    ∀ r ∈ perBlock.flatMap (·.1), ∃ block ∈ blocks, r.minedHeight = block.height := by
  have hall := forall₂_of_mapM h
  clear h
  induction hall with
  | nil => simp
  | @cons block p blocks perBlock h _ ih =>
    intro r hr
    rw [List.flatMap_cons, List.mem_append] at hr
    rcases hr with hr | hr
    · obtain ⟨hscan, -, hp⟩ := scanOneCompactBlock_ok.mp h
      refine ⟨block, List.mem_cons_self, ?_⟩
      rw [hp] at hr
      calc r.minedHeight = p.2.opened.height := (height_of_mem_scanOne hr).1
        _ = block.height := by
          rw [← applySpamFilter_height network block, ← hheight _ _ hscan]
          rfl
    · obtain ⟨block', hblock', hr⟩ := ih r hr
      exact ⟨block', List.mem_cons_of_mem _ hblock', hr⟩

/-- **Batches scan as one range**: whatever batches a range is cut into, and on whatever pool each
of them is scanned, they give the receipts of one scan of the whole range, in its order. The
library has to keep the heights of the blocks. -/
theorem batches_scan_as_one (scanBlock : ScanBlock Output Action) (networkName : String)
    (network : Network) (threads : Option ℕ) (batches : List (List (CompactBlock Output Action)))
    (results : List ScannedCompactBlockBatch)
    (hnetwork : consensusNetwork networkName = .ok network)
    (hheight : ∀ block scanned, scanBlock network block = .ok scanned →
      scanned.height = block.height)
    (hascending : batches.Pairwise fun earlier later =>
      ∀ x ∈ earlier, ∀ y ∈ later, x.height < y.height)
    (h : batches.Forall₂ (fun blocks batch =>
      ScanCompactBlocksInPool scanBlock networkName blocks threads (.ok batch)) results) :
    scanCompactBlocksWithScanningKeys scanBlock networkName batches.flatten =
        .ok ⟨results.flatMap (·.receipts), results.flatMap (·.scannedBlocks)⟩ ∧
      (results.flatMap (·.receipts)).Pairwise receiptLe := by
  suffices hs : ∃ perBlock,
      batches.flatten.mapM (scanOneCompactBlock scanBlock network) = .ok perBlock ∧
      results.flatMap (·.receipts) = sortReceipts (perBlock.flatMap (·.1)) ∧
      results.flatMap (·.scannedBlocks) = perBlock.map (·.2) by
    obtain ⟨perBlock, hm, hreceipts, hblocks⟩ := hs
    rw [serial_eq hnetwork, hm, hreceipts, hblocks]
    exact ⟨rfl, List.pairwise_insertionSort _ _⟩
  induction h with
  | nil => exact ⟨[], rfl, rfl, rfl⟩
  | @cons blocks batch batches results hone _ ih =>
    obtain ⟨hbefore, hascending⟩ := List.pairwise_cons.mp hascending
    obtain ⟨rest, hrest, hreceipts, hblocks⟩ := ih hascending
    have hfirst : ∃ perBlock, blocks.mapM (scanOneCompactBlock scanBlock network) = .ok perBlock ∧
        batch = collectBatch perBlock := by
      rcases hone.cases with ⟨e, -, he⟩ | ⟨network', hn, ⟨perBlock, hm, hr⟩ | ⟨-, -, e, -, he, -⟩⟩
      · cases he
      · cases hnetwork.symm.trans hn
        cases hr
        exact ⟨perBlock, hm, rfl⟩
      · cases he
    obtain ⟨perBlock, hm, rfl⟩ := hfirst
    refine ⟨perBlock ++ rest, ?_, ?_, ?_⟩
    · rw [List.flatten_cons, List.mapM_append, hm, hrest]
      rfl
    · rw [List.flatMap_cons, hreceipts, List.flatMap_append, sortReceipts_append]
      · rfl
      · intro a ha b hb
        obtain ⟨x, hx, hax⟩ := height_of_mem_perBlock hheight hm a ha
        obtain ⟨y, hy, hby⟩ := height_of_mem_perBlock hheight hrest b hb
        obtain ⟨later, hlater, hy⟩ := List.mem_flatten.mp hy
        rw [hax, hby]
        exact hbefore later hlater x hx y hy
    · rw [List.flatMap_cons, hblocks, List.map_append]
      rfl

theorem batches_scan_as_one_on_two_threads :
    scanCompactBlocksWithScanningKeys openSapling "testnet"
        [paidBlock 4, paidBlock 5, paidBlock 7, paidBlock 8] =
      .ok ⟨(collectBatch [openedBlock 4, openedBlock 5]).receipts ++
          (collectBatch [openedBlock 7, openedBlock 8]).receipts ++ [],
        [(openedBlock 4).2, (openedBlock 5).2, (openedBlock 7).2, (openedBlock 8).2]⟩ :=
  (batches_scan_as_one openSapling "testnet" .testNetwork (some 2)
    [[paidBlock 4, paidBlock 5], [paidBlock 7, paidBlock 8]]
    [collectBatch [openedBlock 4, openedBlock 5], collectBatch [openedBlock 7, openedBlock 8]] rfl
    (fun _ _ h => by cases h; rfl) (by decide)
    (.cons (pool_out_of_order 4 5) (.cons (pool_out_of_order 7 8) .nil))).1

end ZcashPayment.BlockScan

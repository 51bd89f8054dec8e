import ZcashPayment.ConfirmationArrays

/-!
The maturity pass through a sequence of tips, and against a rescan.

The depth and the eligibility of a row follow from its height and the tip alone, so the rows that
a sequence of passes leaves depend on its last tip only. The totals of an address are another
matter: a pass recomputes them where a row of the address moves. Once that has happened they are
the totals of the depths its rows are stored with, and they stay so.
-/

namespace ZcashPayment

/-! ### Where a row stands -/

/-- What depths and totals depend on, of a row. -/
structure Standing where
  uid : ReceiptUid
  addressId : ℕ
  core : Core
  depth : ℤ
  deriving DecidableEq

def standing (r : ReceiptRow) : Standing where
  uid := r.receiptUid
  addressId := r.addressId
  core := core r
  depth := r.confirmationDepth

/-- The depth and the eligibility at a tip, for an active mined row. -/
def Standing.atTip (tip : ℤ) (threshold : ℕ) (s : Standing) : Standing :=
  match s.core.state, s.core.minedAt with
  | .active, some height =>
    { s with
      core := { s.core with eligible := depthAt tip height ≥ threshold }
      depth := depthAt tip height }
  | _, _ => s

def Db.standings (db : Db) : List Standing := db.receipts.rows.map standing

/-- Some row of the address is not where it stands at the tip. -/
def Moves (tip : ℤ) (threshold : ℕ) (rows : List ReceiptRow) (a : ℕ) : Prop :=
  ∃ r ∈ rows, r.addressId = a ∧ immature tip threshold r = true

/-- The total and the array of an address, by the depths its rows are stored with. -/
def storedContent (db : Db) (a : ℕ) : ℤ × Option (List ℤ) :=
  (eligibleTotalZat db.receipts.rows a,
    db.storedRequiredConfirmations.map fun required =>
      (List.range (required + 1)).map fun (i : ℕ) =>
        sumZat db.receipts.rows fun r => counted a r && ((i : ℤ) ≤ r.confirmationDepth))

variable {db db' db'' : Db} {r : ReceiptRow} {rows : List ReceiptRow} {a : ℕ} {tip tip' : ℤ}
  {threshold finality : ℕ} {now : Timestamp} {s : Standing}

lemma Standing.atTip_addressId : (s.atTip tip threshold).addressId = s.addressId := by
  unfold Standing.atTip
  split <;> rfl

/-- Only the last tip counts. -/
lemma Standing.atTip_atTip :
    (s.atTip tip threshold).atTip tip' threshold = s.atTip tip' threshold := by
  obtain ⟨uid, addressId, ⟨state, eligible, minedAt, valueZat⟩, depth⟩ := s
  cases state <;> cases minedAt <;> rfl

lemma standing_atTip (h : isActiveMined r = true) :
    (standing r).atTip tip threshold = standing (maturedRow tip threshold r) := by
  simp only [isActiveMined, Bool.and_eq_true, decide_eq_true_eq] at h
  simp only [Standing.atTip, standing, core, maturedRow, h.1, h.2, if_true]

lemma standing_atTip_of_not (h : isActiveMined r = false) :
    (standing r).atTip tip threshold = standing r := by
  simp only [isActiveMined, Bool.and_eq_false_iff, decide_eq_false_iff_not] at h
  rcases h with hkind | hstate
  · have hnone : (standing r).core.minedAt = none := if_neg hkind
    unfold Standing.atTip
    split
    case h_1 height _ hmined =>
      rw [hnone] at hmined
      cases hmined
    case h_2 => rfl
  · have hnot : (standing r).core.state ≠ .active := hstate
    unfold Standing.atTip
    split
    · contradiction
    · rfl

/-- The pass moves a row to where it stands at the tip. -/
lemma immature_iff : immature tip threshold r = true ↔
    (standing r).atTip tip threshold ≠ standing r := by
  rcases h : isActiveMined r with _ | _
  · rw [standing_atTip_of_not h, immature, h]
    simp only [Bool.false_and, Bool.false_eq_true, ne_eq, not_true_eq_false]
  · have heq : standing (maturedRow tip threshold r) = standing r ↔
        depthAt tip r.minedHeight = r.confirmationDepth ∧
          decide (depthAt tip r.minedHeight ≥ threshold) = r.eligibleForWebhook := by
      constructor
      · intro heq
        exact ⟨congrArg Standing.depth heq, congrArg (fun s => s.core.eligible) heq⟩
      · rintro ⟨hdepth, heligible⟩
        rw [maturedRow, heligible, hdepth]
    rw [standing_atTip h, ne_eq, heq, immature, h, not_and_or]
    simp only [Bool.true_and, Bool.or_eq_true, decide_eq_true_eq, ne_eq]
    exact or_congr (not_congr eq_comm) (not_congr eq_comm)

lemma standing_matured :
    standing (if immature tip threshold r then maturedRow tip threshold r else r) =
      (standing r).atTip tip threshold := by
  split_ifs with h
  · have hactive : isActiveMined r = true := by
      simp only [immature, Bool.and_eq_true] at h
      exact h.1
    exact (standing_atTip hactive).symm
  · rw [immature_iff, not_not] at h
    exact h.symm

lemma moves_iff : Moves tip threshold db.receipts.rows a ↔
    ∃ s ∈ db.standings, s.addressId = a ∧ s.atTip tip threshold ≠ s := by
  unfold Moves Db.standings
  constructor
  · rintro ⟨r, hr, ha, himm⟩
    exact ⟨standing r, List.mem_map_of_mem hr, ha, immature_iff.mp himm⟩
  · rintro ⟨s, hs, ha, hne⟩
    obtain ⟨r, hr, rfl⟩ := List.mem_map.mp hs
    exact ⟨r, hr, ha, immature_iff.mpr hne⟩

/-- The rows of an address that does not move stay where they stand. -/
lemma standings_kept (h : db'.standings = db.standings.map (Standing.atTip tip threshold))
    (ha : ¬Moves tip threshold db.receipts.rows a) :
    db'.standings.filter (·.addressId = a) = db.standings.filter (·.addressId = a) := by
  rw [moves_iff] at ha
  push Not at ha
  have haddress : (fun s : Standing => decide (s.addressId = a)) ∘ Standing.atTip tip threshold =
      fun s => decide (s.addressId = a) := by
    funext s
    rw [Function.comp_apply, Standing.atTip_addressId]
  rw [h, List.filter_map, haddress]
  refine (List.map_congr_left fun s hs => ?_).trans (List.map_id _)
  obtain ⟨hs, heq⟩ := List.mem_filter.mp hs
  exact ha s hs (of_decide_eq_true heq)

lemma moves_congr
    (h : db'.standings.filter (·.addressId = a) = db.standings.filter (·.addressId = a)) :
    Moves tip threshold db'.receipts.rows a ↔ Moves tip threshold db.receipts.rows a := by
  have hfilter : ∀ db : Db, Moves tip threshold db.receipts.rows a ↔
      ∃ s ∈ db.standings.filter (·.addressId = a), s.atTip tip threshold ≠ s := by
    intro db
    simp only [moves_iff, List.mem_filter, decide_eq_true_eq, and_assoc]
  rw [hfilter, hfilter, h]

lemma sumZat_standings (db : Db) (a : ℕ) (q : Standing → Bool) :
    sumZat db.receipts.rows (fun r => r.addressId = a && q (standing r)) =
      (((db.standings.filter (·.addressId = a)).filter q).map
        fun s => (s.core.valueZat : ℤ)).sum := by
  unfold sumZat Db.standings
  rw [List.filter_map, List.filter_map, List.map_map, List.filter_filter]
  congr 2
  exact List.filter_congr fun r _ => Bool.and_comm _ _

lemma storedContent_congr
    (h : db'.standings.filter (·.addressId = a) = db.standings.filter (·.addressId = a))
    (hrequired : db'.storedRequiredConfirmations = db.storedRequiredConfirmations) :
    storedContent db' a = storedContent db a := by
  have htotal : eligibleTotalZat db'.receipts.rows a = eligibleTotalZat db.receipts.rows a := by
    have hsum := fun db : Db => sumZat_standings db a fun s => s.core.counted
    exact (hsum db').trans (h ▸ (hsum db).symm)
  have hslot : ∀ i : ℕ,
      sumZat db'.receipts.rows (fun r => counted a r && ((i : ℤ) ≤ r.confirmationDepth)) =
        sumZat db.receipts.rows fun r => counted a r && ((i : ℤ) ≤ r.confirmationDepth) := by
    intro i
    have hsum := fun db : Db => sumZat_standings db a fun s => s.core.counted && ((i : ℤ) ≤ s.depth)
    simp only [← Bool.and_assoc] at hsum
    exact (hsum db').trans (h ▸ (hsum db).symm)
  simp only [storedContent, htotal, hslot, hrequired]

/-! ### One recomputation -/

/-- The total and the array of an address, as they are stored. -/
def contents (db : Db) (a : ℕ) : Option (ℤ × Option (List ℤ)) :=
  (db.addressTotals.find? a).map AddressTotals.content

/-- The rows have been moved to a tip, and the addresses that were touched hold the totals of
their rows. -/
structure MovedTo (touched : ℕ → Prop) (tip : ℤ) (threshold : ℕ) (db db' : Db) : Prop where
  standings : db'.standings = db.standings.map (Standing.atTip tip threshold)
  required : db'.storedRequiredConfirmations = db.storedRequiredConfirmations
  retotaled : ∀ a, touched a → contents db' a = (contents db a).map fun _ => storedContent db' a
  kept : ∀ a, ¬touched a → contents db' a = contents db a

/-- A ledger that holds mined receipts only: the foreign keys hold, a value is an `i64`, and so is
the sum of the active rows of an address, which a recomputation has stored. -/
structure MinedLedger (db : Db) : Prop where
  mined : ∀ r ∈ db.receipts.rows, r.receiptKind = .mined
  issued : ∀ r ∈ db.receipts.rows, db.issued r.addressId = true
  kept : db.TotalsKept
  values : ∀ r ∈ db.receipts.rows, r.valueZat ≤ i64Max
  sums : ∀ a, activeTotalZat db.receipts.rows a ≤ i64Max

variable {p : Pending} {label : String} {touched : ℕ → Prop}

/-- What a row adds to the sum of the active rows of an address. -/
def activeWorth (a : ℕ) (r : ReceiptRow) : ℤ := if activeAt a r then r.valueZat else 0

lemma activeTotalZat_eq (rows : List ReceiptRow) (a : ℕ) :
    activeTotalZat rows a = (rows.map (activeWorth a)).sum := by
  induction rows with
  | nil => rfl
  | cons r rows ih =>
    rw [activeTotalZat, sumZat_cons, ← activeTotalZat, ih]
    rfl

/-- Where the depths are those of the tip, the totals at the tip are those of the depths. -/
lemma content_recomputed {since : ℕ → Option ℤ} {t : AddressTotals}
    (h : ∀ r ∈ db.receipts.rows, counted t.addressId r = true →
      r.confirmationDepth = rowDepth tip r) :
    (recomputed db tip finality now label since t).content = storedContent db t.addressId := by
  have hslot : ∀ i : ℕ, receivedAtDepth db.receipts.rows t.addressId tip i =
      sumZat db.receipts.rows fun r =>
        counted t.addressId r && ((i : ℤ) ≤ r.confirmationDepth) := by
    intro i
    unfold receivedAtDepth sumZat
    congr 2
    refine List.filter_congr fun r hr => ?_
    rcases hcounted : counted t.addressId r with _ | _
    · rfl
    · rw [h r hr hcounted]
  refine Prod.ext rfl ?_
  simp only [AddressTotals.content, recomputed, storedContent]
  cases db.storedRequiredConfirmations with
  | none => rfl
  | some required =>
    rw [receivedByConfirmationsZat_eq, Option.map_some, funext hslot]

/-- **A commit that moves the rows to its tip** recomputes the addresses that move. -/
lemma MovedTo.of_commit (hmined : ∀ r ∈ p.receipts.rows, r.receiptKind = .mined)
    (hrows : p.receipts.rows.map standing = db.standings.map (Standing.atTip tip threshold))
    (haffected : ∀ a, a ∈ p.affected ↔ Moves tip threshold db.receipts.rows a)
    (hc : p.commit tip finality now label db = .ok db') :
    MovedTo (Moves tip threshold db.receipts.rows) tip threshold db db' := by
  have hdb := Pending.commit_ok hc
  have hdepth : ∀ r ∈ p.receipts.rows, ∀ a, counted a r = true →
      r.confirmationDepth = rowDepth tip r := by
    intro r hr a hcounted
    obtain ⟨s, -, heq⟩ := List.mem_map.mp (hrows ▸ List.mem_map_of_mem (f := standing) hr)
    have hactive : isActiveMined r = true := by
      simp only [counted, Bool.and_eq_true, decide_eq_true_eq] at hcounted
      simp only [isActiveMined, hmined r hr, hcounted.2.1, decide_true, Bool.and_self]
    have hfixed : (standing r).atTip tip threshold = standing r := by
      rw [← heq, Standing.atTip_atTip]
    rw [standing_atTip hactive] at hfixed
    have hdepth : depthAt tip r.minedHeight = r.confirmationDepth := congrArg Standing.depth hfixed
    rw [rowDepth, if_pos (hmined r hr), hdepth]
  have hcontents : ∀ a, contents db' a = (db.addressTotals.find? a).map fun t =>
      (p.retotaled tip finality now label db t).content := by
    intro a
    rw [contents, Pending.commit_find? hc, Option.map_map]
    rfl
  refine ⟨?_, ?_, fun a ha => ?_, fun a ha => ?_⟩
  · rw [hdb]
    exact hrows
  · rw [hdb]
    rfl
  · rw [hcontents, contents, Option.map_map]
    refine Option.map_congr fun t ht => ?_
    have hkey := Table.key_of_find? ht
    rw [Pending.retotaled, if_pos ((haffected _).mpr (hkey ▸ ha)), hdb]
    refine (content_recomputed fun r hr hcounted => hdepth r hr _ hcounted).trans ?_
    rw [hkey]
    rfl
  · rw [hcontents, contents]
    refine Option.map_congr fun t ht => ?_
    have hkey := Table.key_of_find? ht
    rw [Pending.retotaled_of_notMem fun hmem => ha (hkey ▸ (haffected _).mp hmem)]

/-! ### The maturity pass -/

lemma mem_maturity_affected :
    a ∈ (maturityPending tip threshold db).affected ↔ Moves tip threshold db.receipts.rows a := by
  simp only [maturityPending, mem_idSet, List.mem_map, List.mem_filter, Moves]
  constructor
  · rintro ⟨r, ⟨hr, himm⟩, ha⟩
    exact ⟨r, hr, ha, himm⟩
  · rintro ⟨r, hr, ha, himm⟩
    exact ⟨r, ⟨hr, himm⟩, ha⟩

/-- A pass keeps the kind, the address and the value of every row. -/
lemma matured_frame (tip : ℤ) (threshold : ℕ) (r : ReceiptRow) :
    (if immature tip threshold r then maturedRow tip threshold r else r).receiptKind =
        r.receiptKind ∧
      (if immature tip threshold r then maturedRow tip threshold r else r).addressId =
        r.addressId ∧
      (if immature tip threshold r then maturedRow tip threshold r else r).valueZat =
        r.valueZat := by
  split_ifs <;> exact ⟨rfl, rfl, rfl⟩

/-- And so the sums of the active rows. -/
lemma MinedLedger.maturity_sums (hl : MinedLedger db) (tip : ℤ) (threshold a : ℕ) :
    activeTotalZat (maturityPending tip threshold db).receipts.rows a ≤ i64Max := by
  have hworth : (maturityPending tip threshold db).receipts.rows.map (activeWorth a) =
      db.receipts.rows.map (activeWorth a) := by
    simp only [maturityPending, Table.rows_update, List.map_map]
    refine List.map_congr_left fun r _ => ?_
    rw [Function.comp_apply]
    split_ifs <;> rfl
  rw [activeTotalZat_eq, hworth, ← activeTotalZat_eq]
  exact hl.sums a

lemma MinedLedger.advance (hl : MinedLedger db) {threshold finality : ℕ}
    (hc : (maturityPending tip threshold db).commit tip finality now label db = .ok db') :
    MinedLedger db' := by
  have hdb := Pending.commit_ok hc
  have hold : ∀ r ∈ db'.receipts.rows, ∃ old ∈ db.receipts.rows,
      r.receiptKind = old.receiptKind ∧ r.addressId = old.addressId ∧
        r.valueZat = old.valueZat := by
    intro r hr
    rw [hdb] at hr
    obtain ⟨old, hold, rfl⟩ := List.mem_map.mp hr
    exact ⟨old, hold, matured_frame tip threshold old⟩
  refine ⟨fun r hr => ?_, fun r hr => ?_, fun a => ?_, fun r hr => ?_, fun a => ?_⟩
  · obtain ⟨old, hmem, hkind, -⟩ := hold r hr
    exact hkind.trans (hl.mined old hmem)
  · obtain ⟨old, hmem, -, haddress, -⟩ := hold r hr
    rw [haddress, hdb]
    exact hl.issued old hmem
  · rw [Pending.commit_find? hc, Option.isSome_map, hdb]
    exact hl.kept a
  · obtain ⟨old, hmem, -, -, hvalue⟩ := hold r hr
    exact hvalue ▸ hl.values old hmem
  · rw [hdb]
    exact hl.maturity_sums tip threshold a

/-- **One pass** always succeeds, and keeps the ledger one of mined receipts. -/
lemma advance_spec (hl : MinedLedger db) (tip : ℤ) (threshold finality : ℕ) (now : Timestamp) :
    ∃ db', advanceReceiptMaturity tip threshold finality now db =
        .ok ((maturityPending tip threshold db).affected, db') ∧
      MovedTo (Moves tip threshold db.receipts.rows) tip threshold db db' ∧ MinedLedger db' := by
  have hrows : (maturityPending tip threshold db).receipts.rows.map standing =
      db.standings.map (Standing.atTip tip threshold) := by
    simp only [maturityPending, Table.rows_update, Db.standings, List.map_map]
    exact List.map_congr_left fun r _ => standing_matured
  obtain ⟨db', hc⟩ : ∃ db', (maturityPending tip threshold db).commit tip finality now
      "receipt_matured" db = .ok db' := by
    refine Pending.commit_succeeds_iff.mpr fun a ha => ⟨?_, hl.maturity_sums tip threshold a⟩
    obtain ⟨r, hr, rfl, -⟩ := mem_maturity_affected.mp ha
    exact (hl.kept _).trans (hl.issued r hr)
  have hok : advanceReceiptMaturity tip threshold finality now db =
      .ok ((maturityPending tip threshold db).affected, db') := by
    rcases h : advanceReceiptMaturity tip threshold finality now db with e | ⟨ids, db₂⟩
    · simp only [advanceReceiptMaturity, hc] at h
      split_ifs at h
      cases h
    · obtain ⟨rfl, hc₂⟩ := maturity_ok h
      rw [hc] at hc₂
      cases hc₂
      rfl
  refine ⟨db', hok, MovedTo.of_commit (fun r hr => ?_) hrows (fun a => mem_maturity_affected) hc,
    hl.advance hc⟩
  obtain ⟨old, hold, rfl⟩ := List.mem_map.mp hr
  exact (matured_frame tip threshold old).1.trans (hl.mined old hold)

/-- The pass at each tip in turn. -/
def advanceThrough (threshold finality : ℕ) :
    List (Timestamp × ℤ) → Db → Except AppError Db
  | [], db => .ok db
  | (now, tip) :: calls, db => do
    let out ← advanceReceiptMaturity tip threshold finality now db
    advanceThrough threshold finality calls out.2

/-- A pass behind another: a touched address keeps the totals of its rows. -/
lemma MovedTo.trans
    (h : MovedTo (Moves tip threshold db.receipts.rows) tip threshold db db')
    (h' : MovedTo touched tip' threshold db' db'')
    (hmoves : ∀ a, ¬touched a → ¬Moves tip' threshold db'.receipts.rows a) :
    MovedTo (fun a => Moves tip threshold db.receipts.rows a ∨ touched a) tip' threshold db
      db'' := by
  have hatTip : Standing.atTip tip' threshold ∘ Standing.atTip tip threshold =
      Standing.atTip tip' threshold := by
    funext s
    exact Standing.atTip_atTip
  refine ⟨?_, h'.required.trans h.required, fun a ha => ?_, fun a ha => ?_⟩
  · rw [h'.standings, h.standings, List.map_map, hatTip]
  · by_cases htouched : touched a
    · rw [h'.retotaled a htouched]
      by_cases hfirst : Moves tip threshold db.receipts.rows a
      · rw [h.retotaled a hfirst, Option.map_map]
        rfl
      · rw [h.kept a hfirst]
    · have hfirst := ha.resolve_right htouched
      have hstored : storedContent db'' a = storedContent db' a :=
        storedContent_congr (standings_kept h'.standings (hmoves a htouched)) h'.required
      rw [h'.kept a htouched, h.retotaled a hfirst, hstored]
  · rw [not_or] at ha
    rw [h'.kept a ha.2, h.kept a ha.1]

/-- **A sequence of passes**: the rows are at the last tip, and every address that some pass
finds moving holds the totals of its rows. -/
lemma advanceThrough_spec (hl : MinedLedger db) (threshold finality : ℕ)
    (calls : List (Timestamp × ℤ)) (now : Timestamp) (tip : ℤ) :
    ∃ db', advanceThrough threshold finality (calls ++ [(now, tip)]) db = .ok db' ∧
      MovedTo (fun a => ∃ c ∈ calls ++ [(now, tip)], Moves c.2 threshold db.receipts.rows a) tip
        threshold db db' := by
  induction calls generalizing db with
  | nil =>
    obtain ⟨db', hok, hmoved, -⟩ := advance_spec hl tip threshold finality now
    refine ⟨db', ?_, ?_⟩
    · rw [List.nil_append, advanceThrough, hok]
      rfl
    · simpa only [List.nil_append, List.mem_singleton, exists_eq_left] using hmoved
  | cons c calls ih =>
    obtain ⟨db₁, hok₁, hfirst, hl₁⟩ := advance_spec hl c.2 threshold finality c.1
    obtain ⟨db', hok, hrest⟩ := ih hl₁
    refine ⟨db', ?_, ?_⟩
    · rw [List.cons_append, advanceThrough, hok₁]
      exact hok
    · have hlast : ∀ a, (¬∃ c ∈ calls ++ [(now, tip)], Moves c.2 threshold db₁.receipts.rows a) →
          ¬Moves tip threshold db₁.receipts.rows a := fun a hnone hmoves =>
        hnone ⟨(now, tip), List.mem_append_right _ (List.mem_singleton_self _), hmoves⟩
      have htouched : ∀ a, (Moves c.2 threshold db.receipts.rows a ∨
          ∃ c ∈ calls ++ [(now, tip)], Moves c.2 threshold db₁.receipts.rows a) ↔
          ∃ d ∈ c :: calls ++ [(now, tip)], Moves d.2 threshold db.receipts.rows a := by
        intro a
        rw [List.cons_append, List.exists_mem_cons_iff]
        by_cases ha : Moves c.2 threshold db.receipts.rows a
        · simp only [ha, true_or]
        · simp only [moves_congr (standings_kept hfirst.standings ha)]
      have htrans := hfirst.trans hrest hlast
      rwa [funext fun a => propext (htouched a)] at htrans

/-! ### The rescan -/

/-- The receipts of the active rows, as a scan finds them. -/
structure Rescan (db : Db) (receipts : List IncomingReceipt) : Prop where
  found : ∀ r ∈ db.receipts.rows, r.receiptState = .active →
    ∃ i ∈ receipts, i.receiptUid = r.receiptUid
  known : ∀ i ∈ receipts, i.isMempool = false ∧ ∃ r ∈ db.receipts.rows,
    r.receiptState = .active ∧ r.receiptUid = i.receiptUid ∧ r.minedHeight = i.minedHeight ∧
      r.valueZat = i.valueZat ∧
      findAddressIdByReceiverFingerprint db i.pool i.receiverFingerprint = some r.addressId

/-- The depth at a tip, as a `u32`. -/
def u32Depth (tip height : ℤ) : ℤ := depthAt tip height % (u32Max + 1)

/-- A receipt that is attributed at a tip to the row it was found for. -/
structure Renews (tip : ℤ) (threshold : ℕ) (e : AttributedScannedReceipt) (r : ReceiptRow) :
    Prop where
  uid : e.receiptUid = r.receiptUid
  address : e.addressId = r.addressId
  height : e.minedHeight = r.minedHeight
  value : e.valueZat = r.valueZat
  kind : e.receiptKind = .mined
  depth : e.confirmationDepth = u32Depth tip r.minedHeight
  eligible : e.eligibleForWebhook = decide (u32Depth tip r.minedHeight ≥ threshold)

section rescan

variable {i : IncomingReceipt} {receipts : List IncomingReceipt} {observedAt : Timestamp}
  {attributed : List AttributedScannedReceipt} {e : AttributedScannedReceipt} {tipHeight : ℕ}
  {startHeight endHeight : ℤ}

lemma renews_attributeOne (hmempool : i.isMempool = false) (huid : r.receiptUid = i.receiptUid)
    (hheight : r.minedHeight = i.minedHeight) (hvalue : r.valueZat = i.valueZat) :
    Renews tipHeight threshold (attributeOne r.addressId i tipHeight threshold observedAt) r := by
  have hdepth : (((if tipHeight ≥ i.minedHeight then
      (tipHeight - i.minedHeight + 1) % (u32Max + 1) else 0 : ℕ)) : ℤ) =
      u32Depth tipHeight r.minedHeight := by
    rw [hheight, u32Depth, depthAt]
    by_cases hle : i.minedHeight ≤ tipHeight
    · rw [if_pos hle, if_pos (Int.ofNat_le.mpr hle)]
      push_cast [hle]
      rfl
    · rw [if_neg hle, if_neg (mt Int.ofNat_le.mp hle)]
      rfl
  refine ⟨huid.symm, rfl, hheight.symm, hvalue.symm, ?_, ?_, ?_⟩
  · simp only [attributeOne, hmempool, Bool.false_eq_true, if_false]
  · simp only [attributeOne, hmempool, Bool.false_eq_true, if_false]
    exact hdepth
  · simp only [attributeOne, hmempool, Bool.false_eq_true, if_false]
    rw [← hdepth]
    exact decide_eq_decide.mpr Int.ofNat_le.symm

lemma attribute_succeeds (hl : MinedLedger db) (hr : Rescan db receipts) (tipHeight threshold : ℕ)
    (observedAt : Timestamp) :
    ∃ attributed, attributeScannedReceipts (findAddressIdByReceiverFingerprint db) tipHeight
      threshold observedAt receipts = .ok attributed := by
  have hvalues : ∀ i ∈ receipts, i.valueZat ≤ i64Max := by
    intro i hi
    obtain ⟨-, r, hmem, -, -, -, hvalue, -⟩ := hr.known i hi
    exact hvalue ▸ hl.values r hmem
  clear hr
  induction receipts with
  | nil => exact ⟨[], rfl⟩
  | cons i receipts ih =>
    obtain ⟨hi, hrest⟩ := List.forall_mem_cons.mp hvalues
    obtain ⟨attributed, hok⟩ := ih hrest
    unfold attributeScannedReceipts
    rcases findAddressIdByReceiverFingerprint db i.pool i.receiverFingerprint with _ | a
    · exact ⟨attributed, hok⟩
    · simp only
      rw [if_neg (by omega), hok]
      exact ⟨_, rfl⟩

/-- What the attributed receipts of a rescan are to the rows. -/
structure Attributed (tip : ℤ) (threshold : ℕ) (db : Db)
    (attributed : List AttributedScannedReceipt) : Prop where
  renews : ∀ e ∈ attributed, ∃ r ∈ db.receipts.rows, isActiveMined r = true ∧
    Renews tip threshold e r
  found : ∀ r ∈ db.receipts.rows, isActiveMined r = true →
    ∃ e ∈ attributed, e.receiptUid = r.receiptUid

lemma Rescan.renews (hl : MinedLedger db) (hr : Rescan db receipts)
    (hok : attributeScannedReceipts (findAddressIdByReceiverFingerprint db) tipHeight threshold
      observedAt receipts = .ok attributed) : Attributed tipHeight threshold db attributed := by
  have hactive : ∀ r ∈ db.receipts.rows, r.receiptState = .active → isActiveMined r = true := by
    intro r hmem hstate
    simp only [isActiveMined, hl.mined r hmem, hstate, decide_true, Bool.and_self]
  constructor
  · intro e he
    obtain ⟨i, hi, a, ha, rfl⟩ := (mem_attributeScannedReceipts hok).mp he
    obtain ⟨hmempool, r, hmem, hstate, huid, hheight, hvalue, hfind⟩ := hr.known i hi
    rw [hfind] at ha
    cases ha
    exact ⟨r, hmem, hactive r hmem hstate, renews_attributeOne hmempool huid hheight hvalue⟩
  · intro r hmem hact
    simp only [isActiveMined, Bool.and_eq_true, decide_eq_true_eq] at hact
    obtain ⟨i, hi, huid⟩ := hr.found r hmem hact.2
    obtain ⟨-, r', -, -, -, -, -, hfind⟩ := hr.known i hi
    exact ⟨_, (mem_attributeScannedReceipts hok).mpr ⟨i, hi, _, hfind, rfl⟩, huid⟩

lemma exists_scannedByUid {es : List AttributedScannedReceipt} (he : e ∈ es) :
    ∃ e' ∈ scannedByUid es, e'.receiptUid = e.receiptUid := by
  induction es generalizing e with
  | nil => cases he
  | cons x es ih =>
    unfold scannedByUid
    rcases List.mem_cons.mp he with rfl | he
    · split_ifs with hany
      · obtain ⟨later, hlater, heq⟩ := List.any_eq_true.mp hany
        obtain ⟨e', he', heq'⟩ := ih hlater
        exact ⟨e', he', heq'.trans (of_decide_eq_true heq)⟩
      · exact ⟨e, List.mem_cons_self, rfl⟩
    · obtain ⟨e', he', heq⟩ := ih he
      split_ifs
      · exact ⟨e', he', heq⟩
      · exact ⟨e', List.mem_cons_of_mem x he', heq⟩

section written

variable (hatt : Attributed tip threshold db attributed)
include hatt

/-- The row of a scanned receipt is the one it renews. -/
lemma renews_of_uid (he : e ∈ scannedByUid attributed) (hr : r ∈ db.receipts.rows)
    (huid : e.receiptUid = r.receiptUid) : isActiveMined r = true ∧ Renews tip threshold e r := by
  obtain ⟨r', hr', hact, hrenews⟩ := hatt.renews e (mem_scannedByUid he)
  obtain rfl := db.receipts.eq_of_key hr hr' (huid.symm.trans hrenews.uid)
  exact ⟨hact, hrenews⟩

/-- A rescan of every active row revokes none. -/
lemma nothing_missing (hr : r ∈ db.receipts.rows) :
    missingFrom (scannedByUid attributed) startHeight endHeight r = false := by
  rcases hact : isActiveMined r with _ | _
  · simp only [missingFrom, hact, Bool.and_false, Bool.false_and]
  · obtain ⟨e, he, huid⟩ := hatt.found r hr hact
    obtain ⟨e', he', huid'⟩ := exists_scannedByUid he
    have hany : (scannedByUid attributed).any (fun e => e.receiptUid = r.receiptUid) = true :=
      List.any_eq_true.mpr ⟨e', he', decide_eq_true (huid'.trans huid)⟩
    simp only [missingFrom, hany, Bool.not_true, Bool.and_false]

/-- A row of the rescanned range, after the rescan. -/
lemma rescanned_row {r' : ReceiptRow}
    (hr' : r' ∈ (reconcilePending attributed startHeight endHeight now db).receipts.rows)
    (hr : r ∈ db.receipts.rows) (huid : r'.receiptUid = r.receiptUid) :
    (∃ e ∈ scannedByUid attributed, Renews tip threshold e r ∧ isActiveMined r = true ∧
        r' = mergedRow e r) ∨ isActiveMined r = false ∧ r' = r := by
  have hf := Table.find?_of_mem hr'
  have hrow : db.row r.receiptUid = some r := Table.find?_of_mem hr
  rw [huid] at hf
  rcases hact : isActiveMined r with _ | _
  · have hnone : ∀ e ∈ scannedByUid attributed, e.receiptUid ≠ r.receiptUid := by
      intro e he heq
      rw [(renews_of_uid hatt he hr heq).1] at hact
      cases hact
    rw [find?_reconcile_unscanned hnone, hrow, Option.map_some, nothing_missing hatt hr,
      if_neg Bool.false_ne_true] at hf
    exact Or.inr ⟨rfl, (Option.some.inj hf).symm⟩
  · obtain ⟨e₀, he₀, huid₀⟩ := hatt.found r hr hact
    obtain ⟨e, he, huid'⟩ := exists_scannedByUid he₀
    have heq := huid'.trans huid₀
    rw [← heq, find?_reconcile he, heq, hrow, Option.elim_some] at hf
    exact Or.inl ⟨e, he, (renews_of_uid hatt he hr heq).2, rfl, (Option.some.inj hf).symm⟩

lemma rescanned_keys :
    (reconcilePending attributed startHeight endHeight now db).receipts.rows.map
      ReceiptRow.receiptUid = db.receipts.rows.map ReceiptRow.receiptUid := by
  have hrevoke : ∀ p : ReceiptRow → Bool,
      (revokeWhere db.receipts now p).rows.map ReceiptRow.receiptUid =
        db.receipts.rows.map ReceiptRow.receiptUid := fun p => Table.keys_update _ _
  refine (keys_writeAll insertedRow mergedRow (fun _ _ => rfl) fun e he => ?_).trans (hrevoke _)
  obtain ⟨r, hr, -, hrenews⟩ := hatt.renews e (mem_scannedByUid he)
  rw [hrevoke]
  exact List.mem_map.mpr ⟨r, hr, hrenews.uid.symm⟩

lemma rescanned_worth (a : ℕ) :
    (reconcilePending attributed startHeight endHeight now db).receipts.rows.map (activeWorth a) =
      db.receipts.rows.map (activeWorth a) := by
  refine Table.map_rows_congr (rescanned_keys hatt) fun r hr r' hr' huid => ?_
  rcases rescanned_row hatt hr' hr huid with ⟨e, -, hrenews, hact, rfl⟩ | ⟨-, rfl⟩
  · simp only [isActiveMined, Bool.and_eq_true, decide_eq_true_eq] at hact
    simp only [activeWorth, activeAt, mergedRow, insertedRow, hrenews.address, hrenews.value,
      hact.2]
  · rfl

/-- The addresses a rescan touches are those with a row it would change. -/
lemma mem_rescan_affected
    (hrange : ∀ r ∈ db.receipts.rows, isActiveMined r = true →
      inRange startHeight endHeight r = true) :
    a ∈ (reconcilePending attributed startHeight endHeight now db).affected ↔
      ∃ e ∈ scannedByUid attributed, ∃ r ∈ db.receipts.rows, r.addressId = a ∧
        Renews tip threshold e r ∧ changedBy r e = true := by
  have hmissing : db.receipts.rows.filter
      (missingFrom (scannedByUid attributed) startHeight endHeight) = [] :=
    List.filter_eq_nil_iff.mpr fun r hr => by
      rw [nothing_missing hatt hr]
      exact Bool.false_ne_true
  have htouched : ∀ e ∈ scannedByUid attributed, ∀ r ∈ db.receipts.rows, Renews tip threshold e r →
      isActiveMined r = true →
      touchedBy (priorOf (existingByUid db.receipts.rows startHeight endHeight) e.receiptUid) e =
        if changedBy r e then [r.addressId, r.addressId] else [] := by
    intro e he r hr hrenews hact
    have hexisting : r ∈ existingByUid db.receipts.rows startHeight endHeight :=
      List.mem_filter.mpr ⟨hr, by rw [hrange r hr hact, Bool.true_or]⟩
    have hprior : priorOf (existingByUid db.receipts.rows startHeight endHeight) e.receiptUid =
        some r := by
      rcases hp : priorOf (existingByUid db.receipts.rows startHeight endHeight) e.receiptUid with
        _ | old
      · exact absurd (decide_eq_true hrenews.uid.symm) (List.find?_eq_none.mp hp r hexisting)
      · obtain ⟨hmem, huid⟩ := priorOf_some hp
        rw [db.receipts.eq_of_key (List.mem_filter.mp hmem).1 hr (huid.trans hrenews.uid)]
    simp only [isActiveMined, Bool.and_eq_true, decide_eq_true_eq] at hact
    rw [hprior, touchedBy, hrenews.address]
    simp only [hact.2, ne_eq, not_true_eq_false, decide_false, Bool.false_or]
  simp only [reconcilePending, hmissing, List.map_nil, List.nil_append, mem_idSet, List.mem_flatMap]
  constructor
  · rintro ⟨e, he, ha⟩
    obtain ⟨r, hr, hact, hrenews⟩ := hatt.renews e (mem_scannedByUid he)
    rw [htouched e he r hr hrenews hact] at ha
    split_ifs at ha with hchanged
    · simp only [List.mem_cons, List.not_mem_nil, or_false, or_self] at ha
      exact ⟨e, he, r, hr, ha.symm, hrenews, hchanged⟩
    · cases ha
  · rintro ⟨e, he, r, hr, rfl, hrenews, hchanged⟩
    refine ⟨e, he, ?_⟩
    rw [htouched e he r hr hrenews (renews_of_uid hatt he hr hrenews.uid).1, if_pos hchanged]
    exact List.mem_cons_self

lemma rescan_succeeds (hl : MinedLedger db) (finality : ℕ) (now : Timestamp)
    (hrange : ∀ r ∈ db.receipts.rows, isActiveMined r = true →
      inRange startHeight endHeight r = true) :
    ∃ out rescanned, reconcileAttributedReceiptsInRange attributed startHeight endHeight tip
        finality now db = .ok (out, rescanned) ∧
      (reconcilePending attributed startHeight endHeight now db).commit tip finality now
        "reorg_reconcile" db = .ok rescanned := by
  obtain ⟨rescanned, hc⟩ : ∃ rescanned,
      (reconcilePending attributed startHeight endHeight now db).commit tip finality now
        "reorg_reconcile" db = .ok rescanned := by
    refine Pending.commit_succeeds_iff.mpr fun a ha => ⟨?_, ?_⟩
    · obtain ⟨-, -, r, hr, rfl, -⟩ := (mem_rescan_affected hatt hrange).mp ha
      exact (hl.kept _).trans (hl.issued r hr)
    · rw [activeTotalZat_eq, rescanned_worth hatt, ← activeTotalZat_eq]
      exact hl.sums a
  have hissued : (scannedByUid attributed).all (fun e => db.issued e.addressId) = true := by
    refine List.all_eq_true.mpr fun e he => ?_
    obtain ⟨r, hr, -, hrenews⟩ := hatt.renews e (mem_scannedByUid he)
    rw [hrenews.address]
    exact hl.issued r hr
  unfold reconcileAttributedReceiptsInRange
  simp only
  rw [if_pos hissued, hc]
  exact ⟨_, rescanned, rfl, rfl⟩

/-- **A rescan**, where the depths at its tip are `u32`s, moves the rows to the tip and recomputes
the addresses that move. -/
lemma rescan_movedTo (hl : MinedLedger db) {rescanned : Db}
    (hrange : ∀ r ∈ db.receipts.rows, isActiveMined r = true →
      inRange startHeight endHeight r = true)
    (hfit : ∀ r ∈ db.receipts.rows, isActiveMined r = true → depthAt tip r.minedHeight ≤ u32Max)
    (hc : (reconcilePending attributed startHeight endHeight now db).commit tip finality now
      "reorg_reconcile" db = .ok rescanned) :
    MovedTo (Moves tip threshold db.receipts.rows) tip threshold db rescanned := by
  have hdepth : ∀ r ∈ db.receipts.rows, isActiveMined r = true →
      u32Depth tip r.minedHeight = depthAt tip r.minedHeight := fun r hr hact =>
    Int.emod_eq_of_lt (depthAt_nonneg _ _) (Int.lt_add_one_of_le (hfit r hr hact))
  have hmerged : ∀ r ∈ db.receipts.rows, isActiveMined r = true → ∀ e, Renews tip threshold e r →
      standing (mergedRow e r) = (standing r).atTip tip threshold := by
    intro r hr hact e hrenews
    rw [standing_atTip hact]
    simp only [isActiveMined, Bool.and_eq_true, decide_eq_true_eq] at hact
    simp only [standing, mergedRow, insertedRow, core, maturedRow, hrenews.address, hrenews.height,
      hrenews.value, hrenews.kind, hrenews.depth, hrenews.eligible, hdepth r hr (by
        simp only [isActiveMined, hact.1, hact.2, decide_true, Bool.and_self]), hact.1, hact.2]
  have hchanged : ∀ r ∈ db.receipts.rows, isActiveMined r = true → ∀ e, Renews tip threshold e r →
      changedBy r e = immature tip threshold r := by
    intro r hr hact e hrenews
    have hdepth := hdepth r hr hact
    have hkind := hact
    simp only [isActiveMined, Bool.and_eq_true, decide_eq_true_eq] at hkind
    simp only [changedBy, immature, hact, hkind.1, hrenews.address, hrenews.height, hrenews.value,
      hrenews.kind, hrenews.depth, hrenews.eligible, hdepth, ne_eq, not_true_eq_false, decide_false,
      Bool.false_or, Bool.or_false, Bool.true_and]
  refine MovedTo.of_commit (fun r hr => ?_) ?_ (fun a => ?_) hc
  · obtain ⟨old, hold, huid⟩ : ∃ old ∈ db.receipts.rows, old.receiptUid = r.receiptUid :=
      List.mem_map.mp (rescanned_keys hatt ▸ List.mem_map_of_mem hr)
    rcases rescanned_row hatt hr hold huid.symm with ⟨e, -, hrenews, -, rfl⟩ | ⟨-, rfl⟩
    · exact hrenews.kind
    · exact hl.mined r hold
  · rw [Db.standings, List.map_map]
    refine Table.map_rows_congr (rescanned_keys hatt) fun r hr r' hr' huid => ?_
    rcases rescanned_row hatt hr' hr huid with ⟨e, -, hrenews, hact, rfl⟩ | ⟨hact, rfl⟩
    · exact hmerged r hr hact e hrenews
    · exact (standing_atTip_of_not hact).symm
  · rw [mem_rescan_affected hatt hrange]
    constructor
    · rintro ⟨e, he, r, hr, rfl, hrenews, hchange⟩
      have hact := (renews_of_uid hatt he hr hrenews.uid).1
      exact ⟨r, hr, rfl, hchanged r hr hact e hrenews ▸ hchange⟩
    · rintro ⟨r, hr, rfl, himm⟩
      have hact : isActiveMined r = true := by
        simp only [immature, Bool.and_eq_true] at himm
        exact himm.1
      obtain ⟨e₀, he₀, huid₀⟩ := hatt.found r hr hact
      obtain ⟨e, he, huid⟩ := exists_scannedByUid he₀
      have hrenews := (renews_of_uid hatt he hr (huid.trans huid₀)).2
      exact ⟨e, he, r, hr, rfl, hrenews, hchanged r hr hact e hrenews ▸ himm⟩

end written

end rescan

/-! ### What agrees -/

/-- The depth and the eligibility of an active row. -/
def activeDepths (db : Db) (u : ReceiptUid) : Option (ℤ × Bool) :=
  ((db.row u).filter fun r => r.receiptState = .active).map fun r =>
    (r.confirmationDepth, r.eligibleForWebhook)

/-- Ledgers with the same depths, eligibilities, totals and arrays. -/
def SameDepths (db db' : Db) : Prop :=
  activeDepths db = activeDepths db' ∧ contents db = contents db'

lemma activeDepths_standings (db : Db) (u : ReceiptUid) : activeDepths db u =
    ((db.standings.find? fun s => s.uid = u).filter fun s => s.core.state = .active).map fun s =>
      (s.depth, s.core.eligible) := by
  rw [Db.standings, List.find?_map, Option.filter_map, Option.map_map]
  rfl

lemma activeDepths_of_mem (hr : r ∈ db.receipts.rows) (hactive : r.receiptState = .active) :
    activeDepths db r.receiptUid = some (r.confirmationDepth, r.eligibleForWebhook) := by
  rw [activeDepths, Db.row, Table.find?_of_mem hr, Option.filter_some,
    if_pos (decide_eq_true hactive)]
  rfl

lemma contents_eq_stored_iff : contents db a = (contents db a).map (fun _ => storedContent db a) ↔
    ∀ t ∈ db.addressTotals.rows, t.addressId = a → t.content = storedContent db a := by
  rcases hf : db.addressTotals.find? a with _ | t
  · rw [contents, hf]
    refine iff_of_true rfl fun t ht ha => ?_
    rw [← ha, Table.find?_of_mem ht] at hf
    cases hf
  · rw [contents, hf, Option.map_some, Option.map_some, Option.some_inj]
    constructor
    · intro h t' ht' ha
      rw [← ha, Table.find?_of_mem ht'] at hf
      cases hf
      exact h
    · exact fun h => h t (Table.mem_of_find? hf) (Table.key_of_find? hf)

/-- **Two ways to one tip** agree where the addresses only one of them touches held the totals of
their rows. -/
lemma MovedTo.same_iff {touched' : ℕ → Prop} (h : MovedTo touched tip threshold db db')
    (h' : MovedTo touched' tip threshold db db'') (htouched : ∀ a, touched' a → touched a)
    (hmoves : ∀ a, Moves tip threshold db.receipts.rows a → touched' a) :
    SameDepths db' db'' ↔ ∀ a, touched a → ¬touched' a →
      contents db a = (contents db a).map fun _ => storedContent db a := by
  have hstandings : db'.standings = db''.standings := h.standings.trans h'.standings.symm
  have hdepths : activeDepths db' = activeDepths db'' := by
    funext u
    rw [activeDepths_standings, activeDepths_standings, hstandings]
  have hstored : ∀ a, storedContent db' a = storedContent db'' a := fun a =>
    storedContent_congr (hstandings ▸ rfl) (h.required.trans h'.required.symm)
  have hkept : ∀ a, ¬touched' a → storedContent db' a = storedContent db a := fun a ha =>
    storedContent_congr (standings_kept h.standings (mt (hmoves a) ha)) h.required
  constructor
  · rintro ⟨-, hcontents⟩ a ha ha'
    have heq := congrFun hcontents a
    rw [h.retotaled a ha, h'.kept a ha', hkept a ha'] at heq
    exact heq.symm
  · refine fun hsame => ⟨hdepths, funext fun a => ?_⟩
    by_cases ha : touched a
    · by_cases ha' : touched' a
      · rw [h.retotaled a ha, h'.retotaled a ha', hstored]
      · rw [h.retotaled a ha, h'.kept a ha', hkept a ha']
        exact (hsame a ha ha').symm
    · rw [h.kept a ha, h'.kept a (mt (htouched a) ha)]

/-- Behind a recomputation at a tip the pass at that tip finds nothing to do. -/
lemma MovedTo.nothing_to_do (h : MovedTo touched tip threshold db db') (finality : ℕ)
    (now : Timestamp) :
    advanceReceiptMaturity tip threshold finality now db' = .ok ([], db') := by
  have hnone : (maturityPending tip threshold db').affected = [] := by
    refine List.eq_nil_iff_forall_not_mem.mpr fun a ha => ?_
    obtain ⟨s, hs, -, hne⟩ := moves_iff.mp (mem_maturity_affected.mp ha)
    rw [h.standings] at hs
    obtain ⟨s₀, -, rfl⟩ := List.mem_map.mp hs
    exact hne Standing.atTip_atTip
  unfold advanceReceiptMaturity
  simp only
  rw [if_pos (List.isEmpty_iff.mpr hnone)]

/-- A depth that comes out alike of the pass and of a rescan is a `u32`. -/
lemma depth_fits_of_same {attributed : List AttributedScannedReceipt} {startHeight endHeight : ℤ}
    (hatt : Attributed tip threshold db attributed) (hmoved : MovedTo touched tip threshold db db')
    (hc : (reconcilePending attributed startHeight endHeight now db).commit tip finality now label
      db = .ok db'') (hsame : activeDepths db' = activeDepths db'') (hr : r ∈ db.receipts.rows)
    (hact : isActiveMined r = true) : depthAt tip r.minedHeight ≤ u32Max := by
  have hstate : r.receiptState = .active := by
    simp only [isActiveMined, Bool.and_eq_true, decide_eq_true_eq] at hact
    exact hact.2
  have hpassed : activeDepths db' r.receiptUid =
      some (depthAt tip r.minedHeight, decide (depthAt tip r.minedHeight ≥ threshold)) := by
    have hmem : standing (maturedRow tip threshold r) ∈ db'.standings := by
      rw [hmoved.standings, ← standing_atTip hact]
      exact List.mem_map_of_mem (List.mem_map_of_mem hr)
    obtain ⟨r', hr', heq⟩ := List.mem_map.mp hmem
    have huid : r'.receiptUid = r.receiptUid := congrArg Standing.uid heq
    have hactive : r'.receiptState = .active :=
      (congrArg (fun s => s.core.state) heq).trans hstate
    have hdepth : r'.confirmationDepth = depthAt tip r.minedHeight := congrArg Standing.depth heq
    have heligible : r'.eligibleForWebhook = decide (depthAt tip r.minedHeight ≥ threshold) :=
      congrArg (fun s => s.core.eligible) heq
    rw [← huid, activeDepths_of_mem hr' hactive, hdepth, heligible]
  have hrescanned : ∃ eligible, activeDepths db'' r.receiptUid =
      some (u32Depth tip r.minedHeight, eligible) := by
    have hreceipts := Pending.commit_receipts hc
    obtain ⟨r', hr', huid⟩ : ∃ r' ∈ (reconcilePending attributed startHeight endHeight now
        db).receipts.rows, r'.receiptUid = r.receiptUid :=
      List.mem_map.mp (rescanned_keys hatt ▸ List.mem_map_of_mem hr)
    rcases rescanned_row hatt hr' hr huid with ⟨e, -, hrenews, -, rfl⟩ | ⟨hnot, -⟩
    · rw [← hreceipts] at hr'
      refine ⟨e.eligibleForWebhook, ?_⟩
      rw [← hrenews.depth]
      exact activeDepths_of_mem hr' rfl
    · rw [hact] at hnot
      cases hnot
  obtain ⟨eligible, hrescanned⟩ := hrescanned
  rw [← hsame, hpassed, Option.some.injEq, Prod.mk.injEq] at hrescanned
  rw [hrescanned.1]
  exact Int.le_of_lt_add_one (Int.emod_lt_of_pos _ (Int.lt_add_one_of_le (Int.natCast_nonneg _)))

/-- The passes through the tips, the one pass at the last of them and the rescan at it leave the
same depths and totals, and a pass behind the rescan changes nothing and returns no address. -/
def DepthsAgree (threshold finality : ℕ) (calls : List (Timestamp × ℤ))
    (now onceAt rescannedAt observedAt : Timestamp) (tipHeight : ℕ)
    (receipts : List IncomingReceipt) (startHeight endHeight : ℤ) (db : Db) : Prop :=
  ∃ through ids once attributed out rescanned,
    advanceThrough threshold finality (calls ++ [(now, (tipHeight : ℤ))]) db = .ok through ∧
    advanceReceiptMaturity tipHeight threshold finality onceAt db = .ok (ids, once) ∧
    attributeScannedReceipts (findAddressIdByReceiverFingerprint db) tipHeight threshold observedAt
      receipts = .ok attributed ∧
    reconcileAttributedReceiptsInRange attributed startHeight endHeight tipHeight finality
      rescannedAt db = .ok (out, rescanned) ∧
    SameDepths through once ∧ SameDepths through rescanned ∧
    ∀ later, advanceReceiptMaturity tipHeight threshold finality later rescanned =
      .ok ([], rescanned)

/-- **The depth computations agree** exactly when the depths at the last tip are `u32`s and every
address that an earlier tip moves and the last one does not was stored with the totals of its
rows. -/
theorem depths_agree_iff (hl : MinedLedger db) {receipts : List IncomingReceipt}
    (hr : Rescan db receipts) {startHeight endHeight : ℤ}
    (hrange : ∀ r ∈ db.receipts.rows, r.receiptState = .active →
      startHeight ≤ r.minedHeight ∧ r.minedHeight ≤ endHeight)
    (threshold finality : ℕ) (calls : List (Timestamp × ℤ))
    (now onceAt rescannedAt observedAt : Timestamp) (tipHeight : ℕ) :
    DepthsAgree threshold finality calls now onceAt rescannedAt observedAt tipHeight receipts
        startHeight endHeight db ↔
      (∀ r ∈ db.receipts.rows, r.receiptState = .active →
        depthAt tipHeight r.minedHeight ≤ u32Max) ∧
      ∀ t ∈ db.addressTotals.rows,
        (∃ c ∈ calls, Moves c.2 threshold db.receipts.rows t.addressId) →
        ¬Moves tipHeight threshold db.receipts.rows t.addressId →
        t.content = storedContent db t.addressId := by
  have hstate : ∀ r, isActiveMined r = true → r.receiptState = .active := fun r hact => by
    simp only [isActiveMined, Bool.and_eq_true, decide_eq_true_eq] at hact
    exact hact.2
  have hrange : ∀ r ∈ db.receipts.rows, isActiveMined r = true →
      inRange startHeight endHeight r = true := by
    intro r hr hact
    have := hrange r hr (hstate r hact)
    simp only [inRange, this, decide_true, Bool.and_self]
  obtain ⟨through, hthrough, hmoved⟩ :=
    advanceThrough_spec hl threshold finality calls now tipHeight
  obtain ⟨once, honce, hmovedOnce, -⟩ := advance_spec hl tipHeight threshold finality onceAt
  obtain ⟨attributed, hattributed⟩ := attribute_succeeds hl hr tipHeight threshold observedAt
  have hatt := hr.renews hl hattributed
  obtain ⟨out, rescanned, hrescanned, hc⟩ := rescan_succeeds hatt hl finality rescannedAt hrange
  have htouched : ∀ a, Moves tipHeight threshold db.receipts.rows a →
      ∃ c ∈ calls ++ [(now, (tipHeight : ℤ))], Moves c.2 threshold db.receipts.rows a := fun a ha =>
    ⟨_, List.mem_append_right _ (List.mem_singleton_self _), ha⟩
  have hstored : (∀ a, (∃ c ∈ calls ++ [(now, (tipHeight : ℤ))],
        Moves c.2 threshold db.receipts.rows a) → ¬Moves tipHeight threshold db.receipts.rows a →
        contents db a = (contents db a).map fun _ => storedContent db a) ↔
      ∀ t ∈ db.addressTotals.rows,
        (∃ c ∈ calls, Moves c.2 threshold db.receipts.rows t.addressId) →
        ¬Moves tipHeight threshold db.receipts.rows t.addressId →
        t.content = storedContent db t.addressId := by
    constructor
    · rintro h t ht ⟨c, hc, hmoves⟩ hnot
      exact contents_eq_stored_iff.mp
        (h t.addressId ⟨c, List.mem_append_left _ hc, hmoves⟩ hnot) t ht rfl
    · rintro h a ⟨c, hc, hmoves⟩ hnot
      refine contents_eq_stored_iff.mpr fun t ht ha => ?_
      subst ha
      rcases List.mem_append.mp hc with hc | hc
      · exact h t ht ⟨c, hc, hmoves⟩ hnot
      · rw [List.mem_singleton.mp hc] at hmoves
        exact absurd hmoves hnot
  constructor
  · rintro ⟨_, _, _, _, _, _, h₁, h₂, h₃, h₄, honceSame, hrescanSame, -⟩
    rw [hthrough] at h₁
    rw [honce] at h₂
    rw [hattributed] at h₃
    cases h₁
    cases h₂
    cases h₃
    rw [hrescanned] at h₄
    cases h₄
    refine ⟨fun r hmem hactive => ?_,
      hstored.mp ((hmoved.same_iff hmovedOnce htouched fun _ h => h).mp honceSame)⟩
    have hact : isActiveMined r = true := by
      simp only [isActiveMined, hl.mined r hmem, hactive, decide_true, Bool.and_self]
    exact depth_fits_of_same hatt hmoved hc hrescanSame.1 hmem hact
  · rintro ⟨hfit, hcontent⟩
    have hmovedRescan := rescan_movedTo hatt hl hrange
      (fun r hr hact => hfit r hr (hstate r hact)) hc
    exact ⟨through, _, once, attributed, out, rescanned, hthrough, honce, hattributed, hrescanned,
      (hmoved.same_iff hmovedOnce htouched fun _ h => h).mpr (hstored.mpr hcontent),
      (hmoved.same_iff hmovedRescan htouched fun _ h => h).mpr (hstored.mpr hcontent),
      hmovedRescan.nothing_to_do finality⟩

/-- A ledger the service can reach, while no receipt of it is one of the mempool. -/
lemma minedLedger_of_kept {owner : ReceiptUid → ℕ} (hk : LedgerKept owner finality db)
    (hmined : ∀ r ∈ db.receipts.rows, r.receiptKind = .mined)
    (hvalues : ∀ r ∈ db.receipts.rows, r.valueZat ≤ i64Max) : MinedLedger db :=
  ⟨hmined, hk.issued, hk.kept, hvalues, hk.sums⟩

def twoMined : List LedgerCall := oneAddress ++
  [.ledger "t1" (.reconcileAttributedReceiptsInRange
    [minedReceipt 1 "aa" 5 7 4 true, minedReceipt 1 "bb" 3 8 3 true] 1 10 10)]

/-- A receipt of the address, as a scan returns it. -/
def scannedReceipt (txid : String) (value height : ℕ) : IncomingReceipt where
  txidHex := txid
  minedHeight := height
  isMempool := false
  pool := .orchard
  outputIndex := 0
  valueZat := value
  receiverFingerprint := [1]

/-- Tip 10 was scanned last, and the tips go on to 12, 9 and 10 again. -/
theorem depths_agree_through_a_falling_tip :
    DepthsAgree 0 2 [("t2", 12), ("t3", 9)] "t4" "t5" "t6" "t7" 10
      [scannedReceipt "aa" 5 7, scannedReceipt "bb" 3 8] 7 8
      (afterCalls .ok testConfig twoMined) := by
  have hk : LedgerKept (fun _ => 1) testConfig.finalityConfirmations
      (afterCalls .ok testConfig twoMined) :=
    afterCalls_kept .ok testConfig (by simp [twoMined, oneAddress, LedgerCall.receipts,
      LedgerOp.receipts, OwnedReceipts, minedReceipt])
  refine (depths_agree_iff (minedLedger_of_kept hk (by decide) (by decide))
    ⟨by decide, by decide⟩ (by decide) 0 2 [("t2", 12), ("t3", 9)] "t4" "t5" "t6" "t7" 10).mpr
      ⟨by decide, fun t ht _ _ => ?_⟩
  have hstored : ∀ t ∈ (afterCalls .ok testConfig twoMined).addressTotals.rows,
      t.content = storedContent (afterCalls .ok testConfig twoMined) t.addressId := by
    decide
  exact hstored t ht

/-- **A pass that finds nothing to do.** The revocation above tip 7 recomputes the address at that
tip and leaves its other row at the depth of tip 10. A pass at tip 10 leaves the array as it is;
passes at the tips 9 and 10 do not. -/
theorem depths_disagree_after_a_revocation :
    let db := afterCalls .ok testConfig
      (twoMined ++ [.ledger "t2" (.revokeMinedReceiptsAboveTip 7)])
    MinedLedger db ∧ Rescan db [scannedReceipt "aa" 5 7] ∧
      (∀ r ∈ db.receipts.rows, r.receiptState = .active →
        7 ≤ r.minedHeight ∧ r.minedHeight ≤ 7) ∧
      ¬DepthsAgree 0 2 [("t3", 9)] "t4" "t5" "t6" "t7" 10 [scannedReceipt "aa" 5 7] 7 7 db := by
  intro db
  have hk : LedgerKept (fun _ => 1) testConfig.finalityConfirmations db :=
    afterCalls_kept .ok testConfig (by simp [twoMined, oneAddress, LedgerCall.receipts,
      LedgerOp.receipts, OwnedReceipts, minedReceipt])
  refine ⟨minedLedger_of_kept hk (by decide) (by decide), ⟨by decide, by decide⟩, by decide, ?_⟩
  rintro ⟨through, ids, once, _, _, _, hthrough, honce, -, -, ⟨-, hsame⟩, -⟩
  have hfresh : (advanceThrough 0 2 ([("t3", 9)] ++ [("t4", 10)]) db).toOption.map (contents · 1) =
      some (some (5, some [5, 5, 5])) := by
    decide
  have hstale : (advanceReceiptMaturity 10 0 2 "t5" db).toOption.map (contents ·.2 1) =
      some (some (5, some [5, 5, 0])) := by
    decide
  have hthrough : advanceThrough 0 2 ([("t3", 9)] ++ [("t4", 10)]) db = .ok through := hthrough
  have honce : advanceReceiptMaturity 10 0 2 "t5" db = .ok (ids, once) := honce
  rw [hthrough] at hfresh
  rw [honce] at hstale
  simp only [Except.toOption, Option.map_some, Option.some.injEq] at hfresh hstale
  rw [hsame, hstale] at hfresh
  simp at hfresh

end ZcashPayment

import Mathlib.Data.List.Induction
import Mathlib.Data.List.Sort
import Mathlib.Data.Nat.Digits.Defs
import ZcashPayment.Identity
import ZcashPayment.Transactions

/-!
How addresses are handed out.

Every mint is one transaction: it reads the diversifier index of the last address, derives the
next address from it, and inserts the address, its row of totals and its receivers. Any number
of mints may run side by side and each may fail at any point.
-/

namespace ZcashPayment.Allocation

open Transactions Relation

/-! ### Diversifier indices -/

/-- Eleven bytes, the least significant first. -/
structure DiversifierIndex where
  bytes : Bytes
  length : bytes.length = 11
  deriving DecidableEq, Repr

/-- Bytes as an integer, the least significant first. -/
def leValue (bytes : Bytes) : ℕ := Nat.ofDigits 256 (bytes.map UInt8.toNat)

def DiversifierIndex.value (index : DiversifierIndex) : ℕ := leValue index.bytes

def DiversifierIndex.new : DiversifierIndex := ⟨List.replicate 11 0, rfl⟩

def diversifierFromBytes : Option Bytes → Except AppError DiversifierIndex
  | some bytes =>
    if h : bytes.length = 11 then .ok ⟨bytes, h⟩
    else .error (.wallet "stored diversifier index must be exactly 11 bytes")
  | none => .ok .new

/-! ### derive_address_after -/

/-- The viewing key of the wallet. The derivation of an address and the increment of an index are
those of the wallet libraries. -/
structure WalletView (α : Type*) where
  increment : DiversifierIndex → Option DiversifierIndex
  findAddress : DiversifierIndex → Except String (α × DiversifierIndex)
  orchard : α → Option Bytes
  sapling : α → Option Bytes
  encode : α → String

/-- What the wallet libraries say of indices: an increment adds one, and the search for an
address goes up. -/
structure WalletView.Ascending {α : Type*} (view : WalletView α) : Prop where
  increment : ∀ i j, view.increment i = some j → j.value = i.value + 1
  findAddress : ∀ start address index, view.findAddress start = .ok (address, index) →
    start.value ≤ index.value

structure DerivedAddress where
  encoded : String
  diversifierIndexBe : Bytes
  orchardReceiver : Bytes
  saplingReceiver : Bytes
  deriving DecidableEq, Repr

variable {α ι : Type*}

/-- Where the search for the next address starts. -/
def searchStart (view : WalletView α) (last : Option Bytes) : Except AppError DiversifierIndex :=
  match diversifierFromBytes last with
  | .error e => .error e
  | .ok start =>
    if last.isSome then
      match view.increment start with
      | some next => .ok next
      | none => .error (.wallet "diversifier space exhausted")
    else .ok start

def deriveAddressAfter (view : WalletView α) (last : Option Bytes) :
    Except AppError DerivedAddress :=
  match searchStart view last with
  | .error e => .error e
  | .ok start =>
    match view.findAddress start with
    | .error e => .error (.wallet e)
    | .ok (address, index) =>
      match view.orchard address, view.sapling address with
      | none, _ => .error (.wallet "derived address missing Orchard receiver")
      | some _, none => .error (.wallet "derived address missing Sapling receiver")
      | some orchardReceiver, some saplingReceiver =>
        .ok {
          encoded := view.encode address
          diversifierIndexBe := index.bytes
          orchardReceiver
          saplingReceiver }

/-! ### The tables -/

/-- The rows of a table, any two of them apart by its `UNIQUE` constraints. -/
structure Rows {β : Type*} (apart : β → β → Prop) where
  rows : List β
  pairwise : rows.Pairwise apart

section rows

variable {β : Type*} {apart : β → β → Prop} [DecidableRel apart] {t t' : Rows apart} {row : β}

def Rows.insert? (t : Rows apart) (row : β) : Option (Rows apart) :=
  if h : ∀ r ∈ t.rows, apart r row then
    some ⟨t.rows ++ [row], List.pairwise_append.mpr
      ⟨t.pairwise, List.pairwise_singleton _ _, fun r hr _ hs => List.mem_singleton.mp hs ▸ h r hr⟩⟩
  else none

lemma Rows.insert?_some (h : t.insert? row = some t') : t'.rows = t.rows ++ [row] := by
  unfold Rows.insert? at h
  split_ifs at h
  cases h
  rfl

end rows

structure IssuedAddressRow where
  addressId : ℕ
  unifiedAddress : String
  addressSource : String
  diversifierIndexBe : Option Bytes
  diversifierBytes : Option Bytes
  createdAt : Timestamp
  requestLabel : Option String
  requestMemo : Option String
  requestMessage : Option String
  requestedAmount : Option String
  retiredAt : Option Timestamp := none
  deriving DecidableEq, Repr

structure AddressReceiverRow where
  receiverId : ℕ
  addressId : ℕ
  pool : Pool
  receiverEncoding : String
  receiverFingerprint : Bytes
  isActive : Bool
  createdAt : Timestamp
  deriving DecidableEq, Repr

abbrev IssuedAddressRow.Apart (a b : IssuedAddressRow) : Prop :=
  a.addressId ≠ b.addressId ∧ a.unifiedAddress ≠ b.unifiedAddress

abbrev totalsApart (a b : AddressTotals) : Prop := a.addressId ≠ b.addressId

/-- `UNIQUE(address_id, pool)`, `UNIQUE(pool, receiver_encoding)` and
`UNIQUE(pool, receiver_fingerprint)`. -/
abbrev AddressReceiverRow.Apart (a b : AddressReceiverRow) : Prop :=
  a.receiverId ≠ b.receiverId ∧ (a.pool = b.pool → a.addressId ≠ b.addressId ∧
    a.receiverEncoding ≠ b.receiverEncoding ∧ a.receiverFingerprint ≠ b.receiverFingerprint)

structure AddressTables where
  issuedAddresses : Rows IssuedAddressRow.Apart
  addressTotals : Rows totalsApart
  addressReceivers : Rows AddressReceiverRow.Apart

def AddressTables.empty : AddressTables := ⟨⟨[], .nil⟩, ⟨[], .nil⟩, ⟨[], .nil⟩⟩

structure OwnedIssuedAddress where
  unifiedAddress : String
  addressSource : String
  diversifierIndexBe : Option Bytes
  diversifierBytes : Option Bytes
  requestLabel : Option String
  requestMemo : Option String
  requestMessage : Option String
  requestedAmount : Option String

structure OwnedAddressReceiver where
  pool : Pool
  receiverEncoding : String
  receiverFingerprint : Bytes

structure AtomicFreshAddressAllocation where
  issuedAddress : OwnedIssuedAddress
  receivers : List OwnedAddressReceiver

structure IssuedAddressRecord where
  addressId : ℕ
  unifiedAddress : String
  addressSource : String
  createdAt : Timestamp
  requestLabel : Option String
  requestMemo : Option String
  requestMessage : Option String
  requestedAmount : Option String
  deriving DecidableEq, Repr

abbrev newerFirst (a b : IssuedAddressRow) : Prop := b.addressId ≤ a.addressId

instance : Std.Total newerFirst := ⟨fun a b => le_total b.addressId a.addressId⟩

instance : IsTrans IssuedAddressRow newerFirst := ⟨fun _ _ _ h h' => le_trans h' h⟩

/-- The index of the address with the highest id. -/
def lastDiversifierIndexBe (t : AddressTables) : Option Bytes :=
  let indexed := t.issuedAddresses.rows.filter fun row => row.diversifierIndexBe.isSome
  (indexed.insertionSort newerFirst).head?.bind
    IssuedAddressRow.diversifierIndexBe

def constraintFailed (table : String) : AppError := .database ("constraint failed: " ++ table)

def insertIssuedAddress (issued : OwnedIssuedAddress) (createdAt : Timestamp)
    (t : AddressTables) : Except AppError (ℕ × AddressTables) :=
  let addressId := nextRowId (t.issuedAddresses.rows.map IssuedAddressRow.addressId)
  let row : IssuedAddressRow :=
    { addressId
      unifiedAddress := issued.unifiedAddress
      addressSource := issued.addressSource
      diversifierIndexBe := issued.diversifierIndexBe
      diversifierBytes := issued.diversifierBytes
      createdAt
      requestLabel := issued.requestLabel
      requestMemo := issued.requestMemo
      requestMessage := issued.requestMessage
      requestedAmount := issued.requestedAmount }
  if issued.addressSource = "fresh" then
    match t.issuedAddresses.insert? row with
    | some issuedAddresses => .ok (addressId, { t with issuedAddresses })
    | none => .error (constraintFailed "issued_addresses")
  else .error (constraintFailed "issued_addresses")

def insertAddressTotals (addressId : ℕ) (createdAt : Timestamp) (t : AddressTables) :
    Except AppError AddressTables :=
  match t.addressTotals.insert? { addressId, dirtyState := .clean, lastChangedAt := createdAt } with
  | some addressTotals => .ok { t with addressTotals }
  | none => .error (constraintFailed "address_totals")

def insertAddressReceiver (addressId : ℕ) (createdAt : Timestamp)
    (receiver : OwnedAddressReceiver) (t : AddressTables) : Except AppError AddressTables :=
  let row : AddressReceiverRow :=
    { receiverId := nextRowId (t.addressReceivers.rows.map AddressReceiverRow.receiverId)
      addressId
      pool := receiver.pool
      receiverEncoding := receiver.receiverEncoding
      receiverFingerprint := receiver.receiverFingerprint
      isActive := true
      createdAt }
  match t.addressReceivers.insert? row with
  | some addressReceivers => .ok { t with addressReceivers }
  | none => .error (constraintFailed "address_receivers")

/-! ### mint_address -/

/-- A request for an address, with the time its call read. -/
structure MintRequest where
  label : Option String
  memo : Option String
  message : Option String
  amount : Option String
  createdAt : Timestamp

def hexString (bytes : Bytes) : String :=
  String.ofList (bytes.flatMap fun byte =>
    [lowerHexDigit (byte.toNat / 16), lowerHexDigit (byte.toNat % 16)])

def receiverFingerprint (bytes : Bytes) : Bytes :=
  let state := bytes.foldl (fun state byte => (state ^^^ byte.toUInt64) * 0x100000001b3)
    (0xcbf29ce484222325 : UInt64)
  (List.range 8).map fun k => (state.toNat / 256 ^ (7 - k)).toUInt8

def ownedReceiver (pool : Pool) (receiver : Bytes) : OwnedAddressReceiver :=
  { pool
    receiverEncoding := hexString receiver
    receiverFingerprint := receiverFingerprint receiver }

/-- What the closure of `mint_address` prepares. -/
def freshAllocation (request : MintRequest) (derived : DerivedAddress) :
    AtomicFreshAddressAllocation where
  issuedAddress :=
    { unifiedAddress := derived.encoded
      addressSource := "fresh"
      diversifierIndexBe := some derived.diversifierIndexBe
      diversifierBytes := some derived.diversifierIndexBe
      requestLabel := request.label
      requestMemo := request.memo
      requestMessage := request.message
      requestedAmount := request.amount }
  receivers :=
    [ownedReceiver .orchard derived.orchardReceiver,
      ownedReceiver .ironwood derived.orchardReceiver,
      ownedReceiver .sapling derived.saplingReceiver]

/-- Where a call stands in its transaction. -/
inductive Stage
  | reading
  | inserting (allocation : AtomicFreshAddressAllocation)
  | addingTotals (allocation : AtomicFreshAddressAllocation) (addressId : ℕ)
  | addingReceivers (allocation : AtomicFreshAddressAllocation) (addressId : ℕ)
      (receivers : List OwnedAddressReceiver)

def issuedRecord (issued : OwnedIssuedAddress) (addressId : ℕ) (createdAt : Timestamp) :
    IssuedAddressRecord where
  addressId := addressId
  unifiedAddress := issued.unifiedAddress
  addressSource := issued.addressSource
  createdAt := createdAt
  requestLabel := issued.requestLabel
  requestMemo := issued.requestMemo
  requestMessage := issued.requestMessage
  requestedAmount := issued.requestedAmount

/-- `allocate_fresh_address` as `mint_address` calls it, statement by statement. -/
def allocateFreshAddress (view : WalletView α) (request : ι → MintRequest) :
    Program ι AddressTables Stage AppError IssuedAddressRecord where
  entry _ := .reading
  next c
    | .reading => .inl fun t =>
      (deriveAddressAfter view (lastDiversifierIndexBe t)).map fun derived =>
        (.inserting (freshAllocation (request c) derived), t)
    | .inserting allocation => .inl fun t =>
      (insertIssuedAddress allocation.issuedAddress (request c).createdAt t).map fun inserted =>
        (.addingTotals allocation inserted.1, inserted.2)
    | .addingTotals allocation addressId => .inl fun t =>
      (insertAddressTotals addressId (request c).createdAt t).map fun t =>
        (.addingReceivers allocation addressId allocation.receivers, t)
    | .addingReceivers allocation addressId (receiver :: receivers) => .inl fun t =>
      (insertAddressReceiver addressId (request c).createdAt receiver t).map fun t =>
        (.addingReceivers allocation addressId receivers, t)
    | .addingReceivers allocation addressId [] =>
      .inr (issuedRecord allocation.issuedAddress addressId (request c).createdAt)

/-! ### A call that runs alone -/

/-- `allocate_fresh_address` as it stands, with no other call about. -/
def allocateAlone (view : WalletView α) (request : MintRequest) (t : AddressTables) :
    Except AppError (IssuedAddressRecord × AddressTables) := do
  let derived ← deriveAddressAfter view (lastDiversifierIndexBe t)
  let allocation := freshAllocation request derived
  let (addressId, t) ← insertIssuedAddress allocation.issuedAddress request.createdAt t
  let t ← insertAddressTotals addressId request.createdAt t
  let t ← allocation.receivers.foldlM
    (fun t receiver => insertAddressReceiver addressId request.createdAt receiver t) t
  return (issuedRecord allocation.issuedAddress addressId request.createdAt, t)

section alone

variable {view : WalletView α} {request : ι → MintRequest} {c : ι} {t t' : AddressTables}
  {record : IssuedAddressRecord}

lemma runs_receivers {allocation : AtomicFreshAddressAllocation} {addressId : ℕ}
    {receivers : List OwnedAddressReceiver}
    (h : receivers.foldlM (fun t receiver =>
      insertAddressReceiver addressId (request c).createdAt receiver t) t = .ok t') :
    ReflTransGen ((allocateFreshAddress view request).Runs c)
      (.addingReceivers allocation addressId receivers, t)
      (.addingReceivers allocation addressId [], t') := by
  induction receivers generalizing t with
  | nil =>
    cases h
    exact .refl
  | cons receiver receivers ih =>
    rw [List.foldlM_cons] at h
    obtain ⟨w, hw, hrest⟩ := bind_ok h
    refine .head ⟨_, rfl, ?_⟩ (ih hrest)
    simp only [hw, Except.map]

/-- **The statements of a call**, run alone, are the function of the source. -/
lemma executes_of_alone (h : allocateAlone view (request c) t = .ok (record, t')) :
    (allocateFreshAddress view request).Executes c t record t' := by
  obtain ⟨derived, hderived, h⟩ := bind_ok h
  obtain ⟨⟨addressId, t₁⟩, hissued, h⟩ := bind_ok h
  obtain ⟨t₂, htotals, h⟩ := bind_ok h
  obtain ⟨t₃, hreceivers, h⟩ := bind_ok h
  cases h
  set allocation := freshAllocation (request c) derived
  have hread : (allocateFreshAddress view request).Runs c (.reading, t)
      (.inserting allocation, t) := by
    refine ⟨_, rfl, ?_⟩
    simp only [hderived, Except.map]
    rfl
  have hissue : (allocateFreshAddress view request).Runs c (.inserting allocation, t)
      (.addingTotals allocation addressId, t₁) := by
    refine ⟨_, rfl, ?_⟩
    simp only [hissued, Except.map]
  have htotal : (allocateFreshAddress view request).Runs c (.addingTotals allocation addressId, t₁)
      (.addingReceivers allocation addressId allocation.receivers, t₂) := by
    refine ⟨_, rfl, ?_⟩
    simp only [htotals, Except.map]
  exact ⟨_, .head hread (.head hissue (.head htotal (runs_receivers hreceivers))), rfl⟩

end alone

/-! ### What the calls have issued -/

/-- An address handed out to a call. -/
structure Issue (ι : Type*) where
  call : ι
  addressId : ℕ
  derived : DerivedAddress

section issues

variable (request : ι → MintRequest)

def Issue.row (i : Issue ι) : IssuedAddressRow where
  addressId := i.addressId
  unifiedAddress := i.derived.encoded
  addressSource := "fresh"
  diversifierIndexBe := some i.derived.diversifierIndexBe
  diversifierBytes := some i.derived.diversifierIndexBe
  createdAt := (request i.call).createdAt
  requestLabel := (request i.call).label
  requestMemo := (request i.call).memo
  requestMessage := (request i.call).message
  requestedAmount := (request i.call).amount

def Issue.totals (i : Issue ι) : AddressTotals :=
  { addressId := i.addressId, dirtyState := .clean, lastChangedAt := (request i.call).createdAt }

def Issue.receiver (i : Issue ι) (receiverId : ℕ) (pool : Pool) (bytes : Bytes) :
    AddressReceiverRow where
  receiverId := receiverId
  addressId := i.addressId
  pool := pool
  receiverEncoding := hexString bytes
  receiverFingerprint := receiverFingerprint bytes
  isActive := true
  createdAt := (request i.call).createdAt

/-- Three active receivers; the one of Ironwood has the bytes of the one of Orchard. -/
def Issue.receivers (i : Issue ι) : List AddressReceiverRow :=
  let before := 3 * (i.addressId - 1)
  [i.receiver request (before + 1) .orchard i.derived.orchardReceiver,
    i.receiver request (before + 2) .ironwood i.derived.orchardReceiver,
    i.receiver request (before + 3) .sapling i.derived.saplingReceiver]

def Issue.record (i : Issue ι) : IssuedAddressRecord where
  addressId := i.addressId
  unifiedAddress := i.derived.encoded
  addressSource := "fresh"
  createdAt := (request i.call).createdAt
  requestLabel := (request i.call).label
  requestMemo := (request i.call).memo
  requestMessage := (request i.call).message
  requestedAmount := (request i.call).amount

/-- The tables hold the issued addresses and nothing else. -/
structure Holds (issues : List (Issue ι)) (t : AddressTables) : Prop where
  issuedAddresses : t.issuedAddresses.rows = issues.map (Issue.row request)
  addressTotals : t.addressTotals.rows = issues.map (Issue.totals request)
  addressReceivers : t.addressReceivers.rows = issues.flatMap (Issue.receivers request)

end issues

/-- Ids and indices go up together. -/
structure Ascends (issues : List (Issue ι)) : Prop where
  ids : issues.map Issue.addressId = List.range' 1 issues.length
  lengths : ∀ i ∈ issues, i.derived.diversifierIndexBe.length = 11
  indices : issues.Pairwise fun i j =>
    leValue i.derived.diversifierIndexBe < leValue j.derived.diversifierIndexBe

variable {view : WalletView α} {request : ι → MintRequest} {issues : List (Issue ι)}
  {t t' : AddressTables} {c : ι} {derived : DerivedAddress} {last : Option Bytes}

lemma nextRowId_range' (n : ℕ) : nextRowId (List.range' 1 n) = n + 1 := by
  unfold nextRowId
  congr 1
  induction n with
  | zero => rfl
  | succ n ih =>
    rw [List.range'_concat, List.foldl_append, ih, List.foldl_cons, List.foldl_nil]
    omega

lemma searchStart_some {bytes : Bytes} {start : DiversifierIndex}
    (h : searchStart view (some bytes) = .ok start) :
    ∃ previous : DiversifierIndex, previous.bytes = bytes ∧
      view.increment previous = some start := by
  simp only [searchStart, diversifierFromBytes, Option.isSome_some, if_true] at h
  by_cases hlength : bytes.length = 11
  · rw [dif_pos hlength] at h
    rcases hi : view.increment ⟨bytes, hlength⟩ with _ | next
    · simp only [hi] at h
      cases h
    · simp only [hi] at h
      cases h
      exact ⟨⟨bytes, hlength⟩, rfl, hi⟩
  · rw [dif_neg hlength] at h
    cases h

/-- **The derived index** is above the one read, and is written as eleven bytes. -/
lemma deriveAddressAfter_index (hview : view.Ascending)
    (h : deriveAddressAfter view last = .ok derived) :
    derived.diversifierIndexBe.length = 11 ∧
      ∀ bytes, last = some bytes → leValue bytes < leValue derived.diversifierIndexBe := by
  unfold deriveAddressAfter at h
  rcases hs : searchStart view last with e | start
  · rw [hs] at h
    cases h
  rcases hf : view.findAddress start with e | ⟨address, index⟩
  · rw [hs] at h
    simp only [hf] at h
    cases h
  have hderived : derived.diversifierIndexBe = index.bytes := by
    rw [hs] at h
    simp only [hf] at h
    split at h
    · cases h
    · cases h
    · cases h
      rfl
  rw [hderived]
  refine ⟨index.length, fun bytes hbytes => ?_⟩
  have hle := hview.findAddress start address index hf
  subst hbytes
  obtain ⟨previous, hprevious, hnext⟩ := searchStart_some hs
  calc leValue bytes < previous.value + 1 := by
        rw [← hprevious]
        exact Nat.lt_succ_self _
    _ = start.value := (hview.increment _ _ hnext).symm
    _ ≤ leValue index.bytes := hle

/-- The index read is the one of the last address. -/
lemma Holds.lastDiversifierIndexBe (h : Holds request issues t) (ha : Ascends issues) :
    lastDiversifierIndexBe t = issues.getLast?.map fun i => i.derived.diversifierIndexBe := by
  have hall : (issues.map (Issue.row request)).filter
      (fun row => row.diversifierIndexBe.isSome) = issues.map (Issue.row request) :=
    List.filter_eq_self.mpr fun row hrow => by
      obtain ⟨i, -, rfl⟩ := List.mem_map.mp hrow
      rfl
  have hids : (issues.map (Issue.row request)).Pairwise fun a b => a.addressId < b.addressId := by
    have hlt : (List.range' 1 issues.length).Pairwise (· < ·) := List.pairwise_lt_range'
    rw [← ha.ids, List.pairwise_map] at hlt
    exact List.pairwise_map.mpr hlt
  have hsorted : (issues.map (Issue.row request)).insertionSort newerFirst =
      (issues.map (Issue.row request)).reverse := by
    refine List.Perm.eq_of_pairwise (fun a b hmem hmem' hab hba => ?_)
      (List.pairwise_insertionSort _ _) (List.pairwise_reverse.mpr (hids.imp le_of_lt))
      ((List.perm_insertionSort _ _).trans (List.reverse_perm _).symm)
    have hnodup : ((issues.map (Issue.row request)).map IssuedAddressRow.addressId).Nodup :=
      List.pairwise_map.mpr (hids.imp ne_of_lt)
    exact List.inj_on_of_nodup_map hnodup ((List.mem_insertionSort _).mp hmem)
      (List.mem_reverse.mp hmem') (le_antisymm hba hab)
  simp only [Allocation.lastDiversifierIndexBe]
  rw [h.issuedAddresses, hall, hsorted, List.head?_reverse, List.getLast?_map]
  rcases issues.getLast? with _ | i <;> rfl

lemma receiverIds_take {i : Issue ι} {n k : ℕ} (hi : i.addressId = n + 1) (hk : k ≤ 3) :
    ((i.receivers request).take k).map AddressReceiverRow.receiverId =
      List.range' (3 * n + 1) k := by
  simp only [Issue.receivers, hi, Nat.add_sub_cancel]
  match k with
  | 0 | 1 | 2 | 3 => rfl

lemma ids_append {i : Issue ι} :
    (issues ++ [i]).map Issue.addressId = List.range' 1 (issues ++ [i]).length ↔
      issues.map Issue.addressId = List.range' 1 issues.length ∧
        i.addressId = issues.length + 1 := by
  rw [List.map_append, List.length_append, List.length_singleton, List.range'_concat,
    List.map_singleton]
  constructor
  · intro h
    obtain ⟨hids, hi⟩ := List.append_inj' h rfl
    rw [List.singleton_inj] at hi
    exact ⟨hids, by omega⟩
  · rintro ⟨hids, hi⟩
    rw [hids, hi]
    congr 2
    omega

lemma receiverIds_eq (ha : issues.map Issue.addressId = List.range' 1 issues.length) :
    (issues.flatMap (Issue.receivers request)).map AddressReceiverRow.receiverId =
      List.range' 1 (3 * issues.length) := by
  induction issues using List.reverseRec with
  | nil => rfl
  | append_singleton issues i ih =>
    obtain ⟨hids, hid⟩ := ids_append.mp ha
    have hthree : (i.receivers request).map AddressReceiverRow.receiverId =
        List.range' (3 * issues.length + 1) 3 := receiverIds_take (k := 3) hid le_rfl
    rw [List.flatMap_append, List.map_append, ih hids, List.flatMap_singleton, hthree,
      Nat.add_comm (3 * issues.length) 1, List.range'_append_1, List.length_append,
      List.length_singleton, Nat.mul_add]

/-- What a call has written by the time it stands at a stage. -/
inductive Progress (view : WalletView α) (request : ι → MintRequest) (n : ℕ) (c : ι)
    (t : AddressTables) : Stage → AddressTables → Prop
  | reading : Progress view request n c t .reading t
  | inserting {derived : DerivedAddress}
      (hderived : deriveAddressAfter view (lastDiversifierIndexBe t) = .ok derived) :
      Progress view request n c t (.inserting (freshAllocation (request c) derived)) t
  | addingTotals {derived : DerivedAddress} {w : AddressTables}
      (hderived : deriveAddressAfter view (lastDiversifierIndexBe t) = .ok derived)
      (hissued : w.issuedAddresses.rows =
        t.issuedAddresses.rows ++ [Issue.row request ⟨c, n + 1, derived⟩])
      (htotals : w.addressTotals = t.addressTotals)
      (hreceivers : w.addressReceivers = t.addressReceivers) :
      Progress view request n c t
        (.addingTotals (freshAllocation (request c) derived) (n + 1)) w
  | addingReceivers {derived : DerivedAddress} {w : AddressTables} {k : ℕ}
      (hderived : deriveAddressAfter view (lastDiversifierIndexBe t) = .ok derived)
      (hissued : w.issuedAddresses.rows =
        t.issuedAddresses.rows ++ [Issue.row request ⟨c, n + 1, derived⟩])
      (htotals : w.addressTotals.rows =
        t.addressTotals.rows ++ [Issue.totals request ⟨c, n + 1, derived⟩])
      (hreceivers : w.addressReceivers.rows =
        t.addressReceivers.rows ++ (Issue.receivers request ⟨c, n + 1, derived⟩).take k) :
      Progress view request n c t (.addingReceivers (freshAllocation (request c) derived) (n + 1)
        ((freshAllocation (request c) derived).receivers.drop k)) w

lemma insertIssuedAddress_ok {issued : OwnedIssuedAddress} {createdAt : Timestamp} {id : ℕ}
    (h : insertIssuedAddress issued createdAt t = .ok (id, t')) :
    id = nextRowId (t.issuedAddresses.rows.map IssuedAddressRow.addressId) ∧
      t'.issuedAddresses.rows = t.issuedAddresses.rows ++ [{
        addressId := id
        unifiedAddress := issued.unifiedAddress
        addressSource := issued.addressSource
        diversifierIndexBe := issued.diversifierIndexBe
        diversifierBytes := issued.diversifierBytes
        createdAt
        requestLabel := issued.requestLabel
        requestMemo := issued.requestMemo
        requestMessage := issued.requestMessage
        requestedAmount := issued.requestedAmount }] ∧
      t'.addressTotals = t.addressTotals ∧ t'.addressReceivers = t.addressReceivers := by
  simp only [insertIssuedAddress] at h
  split_ifs at h
  split at h
  · next hrows =>
    cases h
    exact ⟨rfl, Rows.insert?_some hrows, rfl, rfl⟩
  · cases h

lemma insertAddressTotals_ok {createdAt : Timestamp} {id : ℕ}
    (h : insertAddressTotals id createdAt t = .ok t') :
    t'.issuedAddresses = t.issuedAddresses ∧
      t'.addressTotals.rows = t.addressTotals.rows ++
        [{ addressId := id, dirtyState := .clean, lastChangedAt := createdAt }] ∧
      t'.addressReceivers = t.addressReceivers := by
  unfold insertAddressTotals at h
  split at h
  · next hrows =>
    cases h
    exact ⟨rfl, Rows.insert?_some hrows, rfl⟩
  · cases h

lemma insertAddressReceiver_ok {receiver : OwnedAddressReceiver} {createdAt : Timestamp} {id : ℕ}
    (h : insertAddressReceiver id createdAt receiver t = .ok t') :
    t'.issuedAddresses = t.issuedAddresses ∧ t'.addressTotals = t.addressTotals ∧
      t'.addressReceivers.rows = t.addressReceivers.rows ++ [{
        receiverId := nextRowId (t.addressReceivers.rows.map AddressReceiverRow.receiverId)
        addressId := id
        pool := receiver.pool
        receiverEncoding := receiver.receiverEncoding
        receiverFingerprint := receiver.receiverFingerprint
        isActive := true
        createdAt }] := by
  simp only [insertAddressReceiver] at h
  split at h
  · next hrows =>
    cases h
    exact ⟨rfl, rfl, Rows.insert?_some hrows⟩
  · cases h

/-- The receiver of a call that is inserted next. -/
lemma receivers_next {derived : DerivedAddress} {receiver : OwnedAddressReceiver}
    {rest : List OwnedAddressReceiver} {n k : ℕ}
    (h : (freshAllocation (request c) derived).receivers.drop k = receiver :: rest) :
    rest = (freshAllocation (request c) derived).receivers.drop (k + 1) ∧
      (Issue.receivers request ⟨c, n + 1, derived⟩).take (k + 1) =
        (Issue.receivers request ⟨c, n + 1, derived⟩).take k ++
          [{ receiverId := 3 * n + k + 1
             addressId := n + 1
             pool := receiver.pool
             receiverEncoding := receiver.receiverEncoding
             receiverFingerprint := receiver.receiverFingerprint
             isActive := true
             createdAt := (request c).createdAt }] := by
  match k with
  | 0 | 1 | 2 =>
    cases h
    exact ⟨rfl, rfl⟩
  | k + 3 => simp [freshAllocation] at h

/-- **One statement** takes a call from one stage to the next. -/
lemma Progress.step {place place' : Stage} {w w' : AddressTables} {n : ℕ}
    (hissued : t.issuedAddresses.rows.map IssuedAddressRow.addressId = List.range' 1 n)
    (hreceivers : t.addressReceivers.rows.map AddressReceiverRow.receiverId =
      List.range' 1 (3 * n))
    (hp : Progress view request n c t place w)
    (h : (allocateFreshAddress view request).Runs c (place, w) (place', w')) :
    Progress view request n c t place' w' := by
  obtain ⟨run, hnext, hrun⟩ := h
  cases hp with
  | reading =>
    obtain rfl := Sum.inl.inj hnext
    obtain ⟨derived, hderived, hout⟩ := map_ok hrun
    cases hout
    exact .inserting hderived
  | @inserting derived hderived =>
    obtain rfl := Sum.inl.inj hnext
    obtain ⟨inserted, hinserted, hout⟩ := map_ok hrun
    cases hout
    obtain ⟨hid, hrows, htotals, hrest⟩ := insertIssuedAddress_ok hinserted
    rw [hissued, nextRowId_range'] at hid
    rw [hid] at hrows ⊢
    exact .addingTotals hderived hrows htotals hrest
  | @addingTotals derived w hderived hrows htotals hrest =>
    obtain rfl := Sum.inl.inj hnext
    obtain ⟨inserted, hinserted, hout⟩ := map_ok hrun
    cases hout
    obtain ⟨hsame, htotals', hrest'⟩ := insertAddressTotals_ok hinserted
    have hnone : w'.addressReceivers.rows = t.addressReceivers.rows ++
        (Issue.receivers request ⟨c, n + 1, derived⟩).take 0 := by
      rw [hrest', hrest, List.take_zero, List.append_nil]
    exact .addingReceivers hderived (hsame ▸ hrows) (htotals ▸ htotals') hnone
  | @addingReceivers derived w k hderived hrows htotals hrest =>
    rcases hk : (freshAllocation (request c) derived).receivers.drop k with _ | ⟨receiver, rest⟩
    · rw [hk] at hnext
      cases hnext
    rw [hk] at hnext
    obtain rfl := Sum.inl.inj hnext
    obtain ⟨inserted, hinserted, hout⟩ := map_ok hrun
    cases hout
    obtain ⟨hsame, hsame', hrest'⟩ := insertAddressReceiver_ok hinserted
    have hlt : k < 3 := by
      have := List.length_drop (i := k) (l := (freshAllocation (request c) derived).receivers)
      rw [hk, List.length_cons] at this
      simp only [freshAllocation, List.length_cons, List.length_nil] at this
      omega
    obtain ⟨rfl, htake⟩ := receivers_next (n := n) hk
    refine .addingReceivers hderived (hsame ▸ hrows) (hsame' ▸ htotals) ?_
    have hid : nextRowId (w.addressReceivers.rows.map AddressReceiverRow.receiverId) =
        3 * n + k + 1 := by
      rw [hrest, List.map_append, hreceivers, receiverIds_take rfl hlt.le, Nat.add_comm (3 * n) 1,
        List.range'_append_1, nextRowId_range']
    rw [hrest', htake, hid, hrest, List.append_assoc]

/-- **A committed call** has issued one address, after all others. -/
lemma executes_issues {record : IssuedAddressRecord} (hview : view.Ascending)
    (h : Holds request issues t) (ha : Ascends issues)
    (hc : (allocateFreshAddress view request).Executes c t record t') :
    ∃ i : Issue ι, (i.call, i.record request) = (c, record) ∧
      Holds request (issues ++ [i]) t' ∧ Ascends (issues ++ [i]) := by
  obtain ⟨place, hruns, hnext⟩ := hc
  have hissued : t.issuedAddresses.rows.map IssuedAddressRow.addressId =
      List.range' 1 issues.length := by
    rw [h.issuedAddresses, List.map_map, ← ha.ids]
    rfl
  have hreceivers : t.addressReceivers.rows.map AddressReceiverRow.receiverId =
      List.range' 1 (3 * issues.length) := by
    rw [h.addressReceivers, receiverIds_eq ha.ids]
  have hprogress : ∀ p, ReflTransGen ((allocateFreshAddress view request).Runs c) (.reading, t) p →
      Progress view request issues.length c t p.1 p.2 := by
    intro p hp
    induction hp with
    | refl => exact .reading
    | tail _ hstep ih => exact ih.step hissued hreceivers hstep
  have hend := hprogress _ hruns
  simp only at hend
  cases hend with
  | reading => cases hnext
  | inserting => cases hnext
  | addingTotals => cases hnext
  | @addingReceivers derived w k hderived hrows htotals hrest =>
    rcases hk : (freshAllocation (request c) derived).receivers.drop k with _ | ⟨receiver, rest⟩
    swap
    · rw [hk] at hnext
      cases hnext
    rw [hk] at hnext
    obtain rfl := Sum.inr.inj hnext
    have hall : (Issue.receivers request ⟨c, issues.length + 1, derived⟩).take k =
        Issue.receivers request ⟨c, issues.length + 1, derived⟩ := by
      have := List.drop_eq_nil_iff.mp hk
      exact List.take_of_length_le this
    obtain ⟨hlength, hindex⟩ := deriveAddressAfter_index hview hderived
    refine ⟨⟨c, issues.length + 1, derived⟩, rfl, ⟨?_, ?_, ?_⟩, ?_, ?_, ?_⟩
    · rw [hrows, h.issuedAddresses, List.map_append, List.map_singleton]
    · rw [htotals, h.addressTotals, List.map_append, List.map_singleton]
    · rw [hrest, hall, h.addressReceivers, List.flatMap_append, List.flatMap_singleton]
    · exact ids_append.mpr ⟨ha.ids, rfl⟩
    · exact List.forall_mem_append.mpr ⟨ha.lengths, List.forall_mem_singleton.mpr hlength⟩
    · refine List.pairwise_append.mpr ⟨ha.indices, List.pairwise_singleton _ _, ?_⟩
      intro i hi j hj
      rw [List.mem_singleton.mp hj]
      rcases List.eq_nil_or_concat' issues with rfl | ⟨before, last, rfl⟩
      · cases hi
      have hlast := hindex last.derived.diversifierIndexBe (by
        rw [h.lastDiversifierIndexBe ha, List.getLast?_concat, Option.map_some])
      rcases List.mem_append.mp hi with hbefore | hi
      · exact ((List.pairwise_append.mp ha.indices).2.2 i hbefore last (by simp)).trans hlast
      · rw [List.mem_singleton.mp hi]
        exact hlast

/-- **Committed calls**, one after another, have each issued one address. -/
lemma serial_issues {log : List (ι × IssuedAddressRecord)} (hview : view.Ascending)
    (h : Holds request issues t) (ha : Ascends issues)
    (hlog : (allocateFreshAddress view request).Serial t log t') :
    ∃ added : List (Issue ι), added.map (fun i => (i.call, i.record request)) = log ∧
      Holds request (issues ++ added) t' ∧ Ascends (issues ++ added) := by
  induction hlog with
  | nil => exact ⟨[], rfl, by rwa [List.append_nil], by rwa [List.append_nil]⟩
  | snoc _ hc ih =>
    obtain ⟨added, rfl, hholds, hascends⟩ := ih
    obtain ⟨i, hi, hholds', hascends'⟩ := executes_issues hview hholds hascends hc
    refine ⟨added ++ [i], ?_, ?_, ?_⟩
    · rw [List.map_append, List.map_singleton, hi]
    · rwa [← List.append_assoc]
    · rwa [← List.append_assoc]

/-- No two issued addresses share anything. -/
structure Issue.Before (i j : Issue ι) : Prop where
  addressId : i.addressId < j.addressId
  index : leValue i.derived.diversifierIndexBe < leValue j.derived.diversifierIndexBe
  unifiedAddress : i.derived.encoded ≠ j.derived.encoded
  orchard : i.derived.orchardReceiver ≠ j.derived.orchardReceiver
  sapling : i.derived.saplingReceiver ≠ j.derived.saplingReceiver

/-- The constraints of the tables keep the issued addresses apart. -/
lemma Holds.before (h : Holds request issues t) (ha : Ascends issues) :
    issues.Pairwise Issue.Before := by
  have hids : issues.Pairwise fun i j => i.addressId < j.addressId := by
    have hlt : (List.range' 1 issues.length).Pairwise (· < ·) := List.pairwise_lt_range'
    rw [← ha.ids] at hlt
    exact List.pairwise_map.mp hlt
  have hissued := t.issuedAddresses.pairwise
  rw [h.issuedAddresses, List.pairwise_map] at hissued
  have hreceivers := t.addressReceivers.pairwise
  rw [h.addressReceivers, List.pairwise_flatMap] at hreceivers
  refine (((hids.and ha.indices).and hissued).and hreceivers.2).imp ?_
  rintro i j ⟨⟨⟨hid, hindex⟩, hunified⟩, hreceiver⟩
  refine ⟨hid, hindex, hunified.2, fun horchard => ?_, fun hsapling => ?_⟩
  · have hapart := hreceiver _ List.mem_cons_self _ List.mem_cons_self
    exact (hapart.2 rfl).2.1 (congrArg hexString horchard)
  · have hlast : ∀ k : Issue ι, k.receiver request (3 * (k.addressId - 1) + 3) .sapling
        k.derived.saplingReceiver ∈ k.receivers request := fun k =>
      List.mem_cons_of_mem _ (List.mem_cons_of_mem _ List.mem_cons_self)
    have hapart := hreceiver _ (hlast i) _ (hlast j)
    exact (hapart.2 rfl).2.1 (congrArg hexString hsapling)

/-- **Addresses are unique and allocation is atomic**, however the calls interleave and wherever
they fail: between any two moments the store gains what the calls issued that returned a result
in between, and nothing else. -/
theorem addresses_unique_and_atomic [DecidableEq ι] {view : WalletView α} (hview : view.Ascending)
    (request : ι → MintRequest) {s s' : State ι AddressTables Stage AppError IssuedAddressRecord}
    (h : (allocateFreshAddress view request).Reachable .empty s)
    (h' : ReflTransGen (allocateFreshAddress view request).Step s s') :
    ∃ issues added : List (Issue ι),
      Holds request issues s.stored ∧ Holds request (issues ++ added) s'.stored ∧
      (∀ c record, s.phase c = .returned (.ok record) ↔
        ∃ i ∈ issues, i.call = c ∧ i.record request = record) ∧
      (∀ c record, s'.phase c = .returned (.ok record) ↔
        ∃ i ∈ issues ++ added, i.call = c ∧ i.record request = record) ∧
      ((issues ++ added).map Issue.call).Nodup ∧
      (∀ c e, s'.phase c = .returned (.error e) → ∀ i ∈ issues ++ added, i.call ≠ c) ∧
      (∀ i ∈ issues ++ added, i.derived.diversifierIndexBe.length = 11) ∧
      (issues ++ added).Pairwise Issue.Before := by
  obtain ⟨log, hlog, hserial⟩ := Program.serializable h
  obtain ⟨new, hnew, hserial'⟩ := hlog.run h'
  have hempty : Holds request ([] : List (Issue ι)) .empty := ⟨rfl, rfl, rfl⟩
  obtain ⟨issues, rfl, hholds, hascends⟩ :=
    serial_issues hview hempty ⟨rfl, by simp, .nil⟩ hserial
  rw [List.nil_append] at hholds hascends
  obtain ⟨added, rfl, hholds', hascends'⟩ := serial_issues hview hholds hascends hserial'
  rw [← List.map_append] at hnew
  have hreturned {s'' : State ι AddressTables Stage AppError IssuedAddressRecord}
      {l : List (Issue ι)} (hs : (allocateFreshAddress view request).Serialized .empty
        (l.map fun i => (i.call, i.record request)) s'') (c : ι) (record : IssuedAddressRecord) :
      s''.phase c = .returned (.ok record) ↔ ∃ i ∈ l, i.call = c ∧ i.record request = record := by
    rw [hs.returned, List.mem_map]
    simp only [Prod.mk.injEq]
  have hnodup : ((issues ++ added).map Issue.call).Nodup := by
    have := hnew.nodup
    rwa [List.map_map] at this
  refine ⟨issues, added, hholds, hholds', hreturned hlog, hreturned hnew, hnodup, ?_,
    hascends'.lengths, hholds'.before hascends'⟩
  intro c e hc i hi hcall
  have hok := (hreturned hnew c (i.record request)).mpr ⟨i, hi, hcall, rfl⟩
  rw [hc] at hok
  cases hok

/-! ### An increment with carry -/

/-- Add one to the first byte and carry into the next ones. -/
def incrementBytes : Bytes → Option Bytes
  | [] => none
  | byte :: rest =>
    if byte = 255 then (incrementBytes rest).map (0 :: ·) else some ((byte + 1) :: rest)

lemma leValue_cons (byte : UInt8) (rest : Bytes) :
    leValue (byte :: rest) = byte.toNat + 256 * leValue rest := by
  unfold leValue
  rw [List.map_cons, Nat.ofDigits_cons]

lemma incrementBytes_some {bytes bytes' : Bytes} (h : incrementBytes bytes = some bytes') :
    bytes'.length = bytes.length ∧ leValue bytes' = leValue bytes + 1 := by
  induction bytes generalizing bytes' with
  | nil => cases h
  | cons byte rest ih =>
    unfold incrementBytes at h
    split_ifs at h with hbyte
    · obtain ⟨rest', hrest, rfl⟩ := Option.map_eq_some_iff.mp h
      obtain ⟨hlength, hvalue⟩ := ih hrest
      refine ⟨by rw [List.length_cons, List.length_cons, hlength], ?_⟩
      rw [leValue_cons, leValue_cons, hvalue, hbyte]
      change 0 + 256 * (leValue rest + 1) = 255 + 256 * leValue rest + 1
      omega
    · cases h
      refine ⟨rfl, ?_⟩
      have hlt : byte.toNat ≠ 255 := fun heq => hbyte (UInt8.toNat_inj.mp heq)
      have hmax := byte.toNat_lt
      have hnext : (byte + 1).toNat = byte.toNat + 1 := by
        rw [UInt8.toNat_add]
        change (byte.toNat + 1) % 256 = byte.toNat + 1
        omega
      rw [leValue_cons, leValue_cons, hnext]
      omega

def DiversifierIndex.next (index : DiversifierIndex) : Option DiversifierIndex :=
  (incrementBytes index.bytes).pmap (fun bytes hbytes => ⟨bytes, hbytes⟩)
    fun _ hbytes => (incrementBytes_some hbytes).1.trans index.length

/-- A wallet that has an address at every index. -/
def everyIndexView : WalletView DiversifierIndex where
  increment := DiversifierIndex.next
  findAddress start := .ok (start, start)
  orchard index := some (0 :: index.bytes)
  sapling index := some (1 :: index.bytes)
  encode index := "u1" ++ hexString index.bytes

lemma everyIndexView_ascending : everyIndexView.Ascending where
  increment i j h := by
    obtain ⟨bytes, _, hbytes, rfl⟩ := Option.pmap_eq_some_iff.mp h
    exact (incrementBytes_some hbytes).2
  findAddress start address index h := by
    cases h
    exact le_rfl

def twoRequests (call : Bool) : MintRequest where
  label := some (if call then "second" else "first")
  memo := none
  message := none
  amount := some "1"
  createdAt := "2026-01-01T00:00:00Z"

/-- Two calls, one after the other. -/
theorem addresses_unique_and_atomic_two_calls :
    ∃ s : State Bool AddressTables Stage AppError IssuedAddressRecord,
      s.stored.issuedAddresses.rows.length = 2 ∧
      ∃ issues : List (Issue Bool), Holds twoRequests issues s.stored ∧
        issues.Pairwise Issue.Before := by
  obtain ⟨record, t, record', t', hfirst, hsecond, hrows⟩ : ∃ record t record' t',
      allocateAlone everyIndexView (twoRequests false) .empty = .ok (record, t) ∧
        allocateAlone everyIndexView (twoRequests true) t = .ok (record', t') ∧
          t'.issuedAddresses.rows.length = 2 :=
    ⟨_, _, _, _, rfl, rfl, rfl⟩
  have hreach := (Program.Reachable.execute .refl rfl (fun _ _ _ h => by cases h)
    (executes_of_alone hfirst)).execute (c := true) rfl (fun d _ _ h => by cases d <;> cases h)
    (executes_of_alone hsecond)
  obtain ⟨issues, added, -, hholds, -, -, -, -, -, hbefore⟩ :=
    addresses_unique_and_atomic everyIndexView_ascending twoRequests hreach .refl
  exact ⟨_, hrows, _, hholds, hbefore⟩

end ZcashPayment.Allocation

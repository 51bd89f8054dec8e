import ZcashPayment.Startups

/-!
`PaymentService::initialize` over fresh databases.

A start writes the wallet identity, then the service metadata, and only then decodes the key
and looks at the rest of the configuration. What it has written by then stays when one of the
later checks fails, and the next start compares with it.
-/

namespace ZcashPayment

inductive Network | mainNetwork | testNetwork
  deriving DecidableEq, Repr

/-- The viewing-key library: decoding is a fixed partial function of network and text. -/
structure UivkLib (Uivk : Type) where
  decode : Network → String → Except String Uivk
  hasOrchard : Uivk → Bool
  hasSapling : Uivk → Bool

structure WalletView (Uivk : Type) where
  encodedUivk : String
  uivk : Uivk
  network : Network

structure PaymentService (Uivk : Type) where
  walletView : WalletView Uivk
  publicBaseUrl : Option String
  devSimulatedPayments : Bool
  returnUrlAllowedOrigins : List String
  requiredConfirmations : Option ℕ
  webhookReportConfirmations : ℕ

/-- What a start finds and leaves: the app database and the wallet database's account. -/
structure Files where
  walletIdentity : Option WalletIdentity
  simulatedData : Bool
  db : Db
  walletDb : Option WalletDbIdentity

def Files.fresh : Files := ⟨none, false, Db.fresh, none⟩

def consensusNetwork (networkName : String) : Except AppError Network :=
  match networkName with
  | "mainnet" => .ok .mainNetwork
  | "testnet" => .ok .testNetwork
  | other => .error (.invalidConfig s!"unsupported Zcash network '{other}'")

section

variable {Uivk : Type} (lib : UivkLib Uivk)

def WalletView.decode (networkName encodedUivk : String) : Except AppError (WalletView Uivk) :=
  match consensusNetwork networkName with
  | .error e => .error e
  | .ok network =>
    match lib.decode network encodedUivk with
    | .error e => .error (.wallet e)
    | .ok uivk =>
      if !lib.hasOrchard uivk || !lib.hasSapling uivk then
        .error (.wallet "configured UIVK must contain Orchard and Sapling receivers")
      else .ok { encodedUivk, uivk, network }

def simulatedWithScanner : AppError := .startupIntegrity
  "ZCASH_DEV_SIMULATED_PAYMENTS cannot be combined with LIGHTWALLETD_URL"

def simulatedDataHeld : AppError := .startupIntegrity
  ("this database holds simulated payments " ++
    "(ZCASH_DEV_SIMULATED_PAYMENTS); use a fresh database for real scanning")

/-- The checks after the last write. -/
def finishStart (config : StartupConfig) (identity : WalletIdentity) (metadata : ServiceMetadata)
    (files : Files) : Except AppError (PaymentService Uivk) :=
  match WalletView.decode lib identity.network identity.canonicalUivk with
  | .error e => .error e
  | .ok walletView =>
    if config.devSimulatedPayments && config.lightwalletdUrl.isSome then
      .error simulatedWithScanner
    else if config.lightwalletdUrl.isSome && files.simulatedData then
      .error simulatedDataHeld
    else if files.walletDb.any fun account => account.uivk ≠ walletView.encodedUivk then
      .error (.startupIntegrity "wallet DB UIVK does not match the decoded canonical wallet view")
    else .ok {
      walletView
      publicBaseUrl := config.publicBaseUrl
      devSimulatedPayments := config.devSimulatedPayments && identity.network = "testnet"
      returnUrlAllowedOrigins := config.returnUrlAllowedOrigins
      requiredConfirmations := config.requiredConfirmations
      webhookReportConfirmations := metadata.webhookReportConfirmations }

/-- A start: what it leaves, and what it returns. -/
def PaymentService.initialize (config : StartupConfig) (now : Timestamp) (files : Files) :
    Files × Except AppError (PaymentService Uivk) :=
  -- `initialize_wallet_db` names the network first; it adds no account.
  match consensusNetwork config.network with
  | .error e => (files, .error e)
  | .ok _ =>
    match ensureWalletIdentity config files.walletDb now files.walletIdentity with
    | .error e => (files, .error e)
    | .ok (identity, stored) =>
      let files := { files with walletIdentity := stored }
      match ensureServiceMetadata config.toConfig files.db with
      | .error e => (files, .error e)
      | .ok (metadata, db) =>
        let files := { files with db }
        (files, finishStart lib config identity metadata files)

/-- A start over fresh databases. -/
def firstStart (config : StartupConfig) (now : Timestamp) :
    Files × Except AppError (PaymentService Uivk) :=
  PaymentService.initialize lib config now .fresh

/-! ### The first start -/

variable {lib} {config config' : StartupConfig} {now now' : Timestamp} {identity : WalletIdentity}
  {metadata : ServiceMetadata} {files : Files}

/-- A start that writes nothing: the network has another name, or one of the two values a
first start needs is not configured. -/
def NoTrace (config : StartupConfig) : Prop :=
  (∃ e, consensusNetwork config.network = .error e) ∨ config.startupUivk = none ∨
    config.birthdayHeight = none

/-- The settings the two singleton rows are compared with. -/
structure SameSettings (config config' : StartupConfig) : Prop where
  uivk : config'.startupUivk = config.startupUivk
  network : config'.network = config.network
  birthday : config'.birthdayHeight = config.birthdayHeight
  report : config'.webhookReportConfirmations = config.webhookReportConfirmations
  finality : config'.finalityConfirmations = config.finalityConfirmations

/-- The rows a first start has written by the time it decodes the key. -/
structure Files.WrittenBy (config : StartupConfig) (identity : WalletIdentity)
    (metadata : ServiceMetadata) (files : Files) : Prop where
  walletIdentity : files.walletIdentity = some identity
  uivk : config.startupUivk = some identity.canonicalUivk
  network : identity.network = config.network
  birthday : config.birthdayHeight = some identity.birthdayHeight
  stored : ∃ m, files.db.metadata = some m ∧
    m.webhookReportConfirmations = config.webhookReportConfirmations ∧
    m.finalityConfirmations = config.finalityConfirmations
  report : metadata.webhookReportConfirmations = config.webhookReportConfirmations
  simulatedData : files.simulatedData = false
  walletDb : files.walletDb = none

lemma applyRequiredConfirmations_settings {db : Db} {m : ServiceMetadata}
    (h : db.metadata = some m) (required : Option ℕ) :
    ∃ m', (applyRequiredConfirmations db required).metadata = some m' ∧
      m'.webhookReportConfirmations = m.webhookReportConfirmations ∧
      m'.finalityConfirmations = m.finalityConfirmations := by
  unfold applyRequiredConfirmations
  split_ifs
  · exact ⟨m, h, rfl, rfl⟩
  · exact ⟨{ m with requiredConfirmations := required }, by simp [h], rfl, rfl⟩

/-- **A start for an unknown network** writes nothing. -/
lemma initialize_unknown_network {e : AppError} (h : consensusNetwork config.network = .error e) :
    PaymentService.initialize lib config now files = (files, .error e) := by
  simp only [h, PaymentService.initialize]

/-- **A first start that lacks a value** writes nothing. -/
lemma initialize_fresh_missing (lib : UivkLib Uivk) (now : Timestamp) {network : Network}
    (hn : consensusNetwork config.network = .ok network)
    (h : config.startupUivk = none ∨ config.birthdayHeight = none) :
    ∃ e ∈ [uivkMissing, birthdayMissing],
      firstStart lib config now = (.fresh, .error e) := by
  simp only [firstStart, PaymentService.initialize, hn, ensureWalletIdentity, firstIdentity,
    Files.fresh]
  rcases hu : config.startupUivk with _ | uivk
  · exact ⟨uivkMissing, by simp, by simp [Except.map]⟩
  · rcases hb : config.birthdayHeight with _ | birthday
    · exact ⟨birthdayMissing, by simp, by simp [Except.map]⟩
    · rw [hu, hb] at h
      simp at h

lemma initialize_fresh_noTrace (lib : UivkLib Uivk) (now : Timestamp) (h : NoTrace config) :
    ∃ e, firstStart lib config now = (.fresh, .error e) := by
  rcases hn : consensusNetwork config.network with e | network
  · exact ⟨e, initialize_unknown_network hn⟩
  · rcases h with ⟨e, he⟩ | h
    · rw [hn] at he
      cases he
    · obtain ⟨e, -, h⟩ := initialize_fresh_missing lib now hn h
      exact ⟨e, h⟩

/-- **A first start that writes** goes on to the later checks with its own rows. -/
lemma initialize_fresh (lib : UivkLib Uivk) (now : Timestamp) (h : ¬NoTrace config) :
    ∃ identity metadata files, files.WrittenBy config identity metadata ∧
      firstStart lib config now =
        (files, finishStart lib config identity metadata files) := by
  simp only [NoTrace, not_or, not_exists] at h
  obtain ⟨hn, hu, hb⟩ := h
  obtain ⟨uivk, hu⟩ := Option.ne_none_iff_exists'.mp hu
  obtain ⟨birthday, hb⟩ := Option.ne_none_iff_exists'.mp hb
  rcases hnet : consensusNetwork config.network with e | network
  · exact absurd hnet (hn e)
  let identity : WalletIdentity :=
    { canonicalUivk := uivk, uivkFingerprint := fingerprint uivk, network := config.network
      birthdayHeight := birthday, walletDbPath := config.walletDbPath
      initializedAt := now, lastValidatedAt := now }
  have hfirst : ensureWalletIdentity config none now none = .ok (identity, some identity) := by
    simp [ensureWalletIdentity, firstIdentity, hu, hb, Except.map, identity]
  let metadata : ServiceMetadata :=
    { webhookReportConfirmations := config.webhookReportConfirmations
      finalityConfirmations := config.finalityConfirmations }
  let db := applyRequiredConfirmations { Db.fresh with metadata := some metadata }
    config.requiredConfirmations
  have hmeta : ensureServiceMetadata config.toConfig Db.fresh = .ok (metadata, db) := rfl
  refine ⟨identity, metadata, ⟨some identity, false, db, none⟩, ?_, ?_⟩
  · obtain ⟨m, hm, hr, hf⟩ := applyRequiredConfirmations_settings
      (show { Db.fresh with metadata := some metadata : Db }.metadata = some metadata from rfl)
      config.requiredConfirmations
    exact ⟨rfl, hu, rfl, hb, ⟨m, hm, hr, hf⟩, rfl, rfl, rfl⟩
  · simp only [firstStart, PaymentService.initialize, hnet, Files.fresh, hfirst, hmeta]

/-! ### The next start -/

/-- The later checks see the configuration and what a first start of it would store. -/
lemma finishStart_congr {identity' : WalletIdentity} {metadata' : ServiceMetadata}
    {files' : Files} (hu : identity'.canonicalUivk = identity.canonicalUivk)
    (hn : identity'.network = identity.network)
    (hr : metadata'.webhookReportConfirmations = metadata.webhookReportConfirmations)
    (hs : files'.simulatedData = files.simulatedData) (hw : files'.walletDb = files.walletDb) :
    finishStart lib config identity' metadata' files' =
      finishStart lib config identity metadata files := by
  simp only [finishStart, hu, hn, hr, hs, hw]

/-- A key that is not decoded is not reported as a mismatch of stored settings. -/
lemma decode_error {network encoded : String} {e : AppError}
    (h : WalletView.decode lib network encoded = .error e) (message : String) :
    e ≠ .startupIntegrity message := by
  unfold WalletView.decode at h
  rcases hn : consensusNetwork network with e' | net <;> simp only [hn] at h
  · unfold consensusNetwork at hn
    split at hn <;> cases hn
    cases h
    exact fun h => by cases h
  · rcases hd : lib.decode net encoded with e' | uivk <;> simp only [hd] at h
    · cases h
      exact fun h => by cases h
    · split_ifs at h
      cases h
      exact fun h => by cases h

/-- The later checks name none of the settings they could find stored. -/
lemma finishStart_error {message : String}
    (h : finishStart lib config identity metadata files = .error (.startupIntegrity message))
    (hw : files.walletDb = none) :
    .startupIntegrity message = simulatedWithScanner ∨
      .startupIntegrity message = simulatedDataHeld := by
  unfold finishStart at h
  rcases hd : WalletView.decode lib identity.network identity.canonicalUivk with e | view <;>
    simp only [hd] at h
  · cases h
    exact absurd rfl (decode_error hd message)
  · split_ifs at h with h1 h2 h3
    · cases h
      exact Or.inl rfl
    · cases h
      exact Or.inr rfl
    · rw [hw] at h3
      cases h3

/-- The errors of a comparison with stored settings. -/
def settingErrors : List AppError :=
  [.startupIntegrity "provided ZCASH_UIVK does not match stored wallet identity",
    .startupIntegrity "configured ZCASH_NETWORK does not match stored wallet identity",
    .startupIntegrity "provided ZCASH_BIRTHDAY_HEIGHT does not match stored wallet identity",
    settingsMismatch]

lemma finishStart_ne {e : AppError} (he : e ∈ uivkMissing :: birthdayMissing :: settingErrors)
    (hw : files.walletDb = none) : finishStart lib config identity metadata files ≠ .error e := by
  have hne : ∀ e ∈ uivkMissing :: birthdayMissing :: settingErrors,
      (∃ message, e = .startupIntegrity message) ∧ e ≠ simulatedWithScanner ∧
        e ≠ simulatedDataHeld := by
    intro e he
    simp only [settingErrors, List.mem_cons, List.not_mem_nil, or_false] at he
    rcases he with rfl | rfl | rfl | rfl | rfl | rfl <;>
      exact ⟨⟨_, rfl⟩, by decide, by decide⟩
  obtain ⟨⟨message, rfl⟩, h1, h2⟩ := hne e he
  intro h
  rcases finishStart_error h hw with h | h
  · exact h1 h
  · exact h2 h

lemma checkExisting_error {e : AppError} (h : checkExisting config none identity = .error e) :
    e ∈ settingErrors := by
  unfold checkExisting at h
  split_ifs at h <;> simp_all [settingErrors]

/-- **A start on a fresh database** never finds other settings stored. -/
lemma initialize_fresh_ne {network : Network} {e : AppError} (he : e ∈ settingErrors)
    (hn : consensusNetwork config.network = .ok network) :
    (firstStart lib config now).2 ≠ .error e := by
  by_cases ht : NoTrace config
  · have hmissing : config.startupUivk = none ∨ config.birthdayHeight = none := by
      rcases ht with ⟨e, he⟩ | h
      · rw [hn] at he
        cases he
      · exact h
    obtain ⟨e', he', h⟩ := initialize_fresh_missing lib now hn hmissing
    have hdiff : ∀ e ∈ settingErrors, ∀ e' ∈ [uivkMissing, birthdayMissing], e' ≠ e := by decide
    rw [h]
    exact fun heq => hdiff e he e' he' (Except.error.inj heq)
  · obtain ⟨identity, metadata, files, hw, h⟩ := initialize_fresh lib now ht
    rw [h]
    exact finishStart_ne (by simp [he]) hw.walletDb

/-- **A start over what a failed one has written** either finds its own settings there and
goes on to the later checks, or names the one that differs. -/
lemma initialize_after (lib : UivkLib Uivk) (now' : Timestamp) {network : Network}
    (hw : files.WrittenBy config identity metadata)
    (hn : consensusNetwork config'.network = .ok network) :
    let again := PaymentService.initialize lib config' now' files
    (∃ e ∈ settingErrors, again.2 = .error e ∧ ¬SameSettings config config') ∨
    ConfigAgrees config' identity ∧
      config'.webhookReportConfirmations = config.webhookReportConfirmations ∧
      config'.finalityConfirmations = config.finalityConfirmations ∧
      ∃ m files', m.webhookReportConfirmations = config.webhookReportConfirmations ∧
        files'.walletIdentity = some (touched now' identity) ∧ files'.simulatedData = false ∧
        files'.walletDb = none ∧
        again = (files', finishStart lib config' (touched now' identity) m files') := by
  intro again
  obtain ⟨m, hm, hreport, hfinality⟩ := hw.stored
  rcases hc : checkExisting config' none identity with e | ⟨⟩
  · refine Or.inl ⟨e, checkExisting_error hc, ?_, fun hsame => ?_⟩
    · simp [again, PaymentService.initialize, hn, ensureWalletIdentity, hw.walletIdentity,
        hw.walletDb, hc, Except.map]
    · have hok : checkExisting config' none identity = .ok () ↔ _ := checkExisting_ok_iff
      rw [hc] at hok
      refine absurd (hok.mpr ⟨⟨?_, hw.network.trans hsame.network.symm, ?_⟩, by simp, by simp⟩)
        (by simp)
      · rw [hsame.uivk, hw.uivk]
        simp
      · rw [hsame.birthday, hw.birthday]
        simp
  · have hensure : ensureWalletIdentity config' files.walletDb now' files.walletIdentity =
        .ok (touched now' identity, some (touched now' identity)) := by
      simp [ensureWalletIdentity, hw.walletIdentity, hw.walletDb, hc, Except.map]
    by_cases hset : m.webhookReportConfirmations ≠ config'.webhookReportConfirmations ∨
        m.finalityConfirmations ≠ config'.finalityConfirmations
    · refine Or.inl ⟨settingsMismatch, by simp [settingErrors], ?_, fun hsame => ?_⟩
      · simp [again, PaymentService.initialize, hn, hensure, ensureServiceMetadata,
          ensureServiceMetadataRow, hm, hset, bind, Except.bind]
      · rw [hreport, hfinality, hsame.report, hsame.finality] at hset
        simp at hset
    · have hmeta : ensureServiceMetadata config'.toConfig files.db =
          .ok (m, applyRequiredConfirmations files.db config'.requiredConfirmations) := by
        simp only [ensureServiceMetadata, ensureServiceMetadataRow, hm, hset, if_false]
        rfl
      let files' : Files := { files with
        walletIdentity := some (touched now' identity)
        db := applyRequiredConfirmations files.db config'.requiredConfirmations }
      have hrun : PaymentService.initialize lib config' now' files =
          (files', finishStart lib config' (touched now' identity) m files') := by
        simp only [hn, PaymentService.initialize, hensure, hmeta, files']
      push Not at hset
      exact Or.inr ⟨(checkExisting_ok_iff.mp hc).1, hset.1.symm.trans hreport,
        hset.2.symm.trans hfinality, m, files', hreport, rfl, hw.simulatedData, hw.walletDb, hrun⟩

lemma decode_ok {network encoded : String} {view : WalletView Uivk}
    (h : WalletView.decode lib network encoded = .ok view) :
    view.encodedUivk = encoded ∧ consensusNetwork network = .ok view.network := by
  unfold WalletView.decode at h
  rcases hn : consensusNetwork network with e | net <;> simp only [hn] at h
  · cases h
  · rcases hd : lib.decode net encoded with e | uivk <;> simp only [hd] at h
    · cases h
    · split_ifs at h
      cases h
      exact ⟨rfl, rfl⟩

/-- A service serves the identity it was started with. -/
def PaymentService.Serves (service : PaymentService Uivk) (config : StartupConfig)
    (files : Files) : Prop :=
  ∃ identity, files.walletIdentity = some identity ∧ ConfigAgrees config identity ∧
    service.walletView.encodedUivk = identity.canonicalUivk ∧
    consensusNetwork identity.network = .ok service.walletView.network

lemma finishStart_ok {service : PaymentService Uivk}
    (h : finishStart lib config identity metadata files = .ok service) :
    service.walletView.encodedUivk = identity.canonicalUivk ∧
      consensusNetwork identity.network = .ok service.walletView.network := by
  unfold finishStart at h
  rcases hd : WalletView.decode lib identity.network identity.canonicalUivk with e | view <;>
    simp only [hd] at h
  · cases h
  · split_ifs at h
    cases h
    exact decode_ok hd

lemma initialize_fresh_serves {service : PaymentService Uivk}
    (h : (firstStart lib config now).2 = .ok service) :
    service.Serves config (firstStart lib config now).1 := by
  by_cases ht : NoTrace config
  · obtain ⟨e, he⟩ := initialize_fresh_noTrace lib now ht
    rw [he] at h
    cases h
  · obtain ⟨identity, metadata, files, hw, hrun⟩ := initialize_fresh lib now ht
    rw [hrun] at h ⊢
    refine ⟨identity, hw.walletIdentity, ⟨?_, hw.network, ?_⟩, finishStart_ok h⟩
    · rw [hw.uivk]
      simp
    · rw [hw.birthday]
      simp

/-- **A first start leaves no trace**, whether it fails or not, exactly where it wrote nothing,
or where the next one fails before it looks, or has the settings the first one wrote. -/
theorem first_start_leaves_no_trace_iff (lib : UivkLib Uivk) (config config' : StartupConfig)
    (now now' : Timestamp) :
    let files := (firstStart lib config now).1
    let again := PaymentService.initialize lib config' now' files
    (again.2 = (firstStart lib config' now').2 ∧
      ∀ service, again.2 = .ok service → service.Serves config' again.1) ↔
    NoTrace config ∨ (∃ e, consensusNetwork config'.network = .error e) ∨
      SameSettings config config' := by
  intro files again
  by_cases ht : NoTrace config
  · obtain ⟨e, he⟩ := initialize_fresh_noTrace lib now ht
    have hagain : again = firstStart lib config' now' :=
      congrArg (fun r => PaymentService.initialize lib config' now' r.1) he
    rw [hagain]
    simp only [ht, true_or, iff_true, true_and]
    exact fun service => initialize_fresh_serves
  obtain ⟨identity, metadata, written, hw, hrun⟩ := initialize_fresh lib now ht
  have hagain : again = PaymentService.initialize lib config' now' written :=
    congrArg (fun r => PaymentService.initialize lib config' now' r.1) hrun
  rw [hagain]
  rcases hn : consensusNetwork config'.network with e' | network
  · simp [firstStart, initialize_unknown_network hn]
  simp only [ht, false_or, reduceCtorEq, exists_false]
  rcases initialize_after lib now' hw hn with ⟨e', he', hr, hdiffers⟩ |
    ⟨hagrees, hreport, hfinality, m, files', hm, hid, hsim, hwallet, hr⟩
  · -- A comparison fails; over a fresh database nothing is compared.
    simp only [hr, hdiffers, iff_false, not_and]
    exact fun h => absurd h.symm (initialize_fresh_ne he' hn)
  rw [hr]
  constructor
  · rintro ⟨hsame, -⟩
    have hgiven : ¬(config'.startupUivk = none ∨ config'.birthdayHeight = none) := by
      intro hmissing
      obtain ⟨e', he', hfresh⟩ :=
        initialize_fresh_missing lib now' hn hmissing
      rw [hfresh] at hsame
      refine finishStart_ne ?_ hwallet hsame
      simp only [List.mem_cons, List.not_mem_nil, or_false] at he' ⊢
      rcases he' with rfl | rfl <;> simp
    push Not at hgiven
    obtain ⟨uivk, hu⟩ := Option.ne_none_iff_exists'.mp hgiven.1
    obtain ⟨birthday, hb⟩ := Option.ne_none_iff_exists'.mp hgiven.2
    refine ⟨?_, hagrees.network.symm.trans hw.network, ?_, hreport, hfinality⟩
    · rw [hu, hw.uivk, hagrees.uivk uivk hu]
    · rw [hb, hw.birthday, hagrees.birthday birthday hb]
  · intro hsame
    have ht' : ¬NoTrace config' := by
      simpa [NoTrace, hsame.network, hsame.uivk, hsame.birthday] using ht
    obtain ⟨identity', metadata', written', hw', hrun'⟩ :=
      initialize_fresh lib now' ht'
    have huivk : identity.canonicalUivk = identity'.canonicalUivk := by
      have h := hw'.uivk
      rw [hsame.uivk, hw.uivk] at h
      exact Option.some.inj h
    have hequal : finishStart lib config' (touched now' identity) m files' =
        finishStart lib config' identity' metadata' written' :=
      finishStart_congr huivk (hagrees.network.trans hw'.network.symm)
        (hm.trans (hreport.symm.trans hw'.report.symm)) (hsim.trans hw'.simulatedData.symm)
        (hwallet.trans hw'.walletDb.symm)
    refine ⟨by rw [hrun', hequal], fun service h => ?_⟩
    exact ⟨_, hid, hagrees.same (touched_same now' identity), finishStart_ok h⟩

/-- A library that decodes one key, on the test network. -/
def testUivkLib : UivkLib Unit where
  decode network encoded :=
    if network = .testNetwork ∧ encoded = "uivktest1" then .ok () else .error "invalid encoding"
  hasOrchard _ := true
  hasSapling _ := true

/-- A first start with a mistyped key fails, and so does the corrected start, which would have
succeeded on fresh databases. -/
theorem corrected_start_fails_after_a_mistyped_key :
    let mistyped : StartupConfig :=
      { testStartup with network := "testnet", startupUivk := some "uivktest" }
    let corrected : StartupConfig := { mistyped with startupUivk := some "uivktest1" }
    let first := firstStart testUivkLib mistyped "t1"
    let again := PaymentService.initialize testUivkLib corrected "t2" first.1
    (∃ e, first.2 = .error e) ∧
      (∃ service, (firstStart testUivkLib corrected "t2").2 = .ok service) ∧
      again.2 =
        .error (.startupIntegrity "provided ZCASH_UIVK does not match stored wallet identity") := by
  refine ⟨⟨_, rfl⟩, ⟨_, rfl⟩, rfl⟩

end

end ZcashPayment
